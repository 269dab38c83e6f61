import Mathlib.Data.List.Forall2
import WikiPage.Proofs.Anchors
import WikiPage.Tree.Rewrite
/-!
# The table of contents and the tree

What goes through a tree for its outline gives back two things, the tree with anchors and the outline.
They agree: the table of contents is read off the headings of the tree that is given back, in document
order, and but for anchors that are new that tree is the one that came in.

* `Node.Anchored` relates a tree to one with more anchors; `anchored_walk`, `walk_unassigned`: what the
  walk makes of the tree.
* `isWalk_anchoring`: going through a tree is the walk that offers every node to one rule.
* `visit_cases` says all that one heading can do, `visitAll_spec` what a row of them does.
* `outlined_contents`: tree, title and table of contents together.
-/

namespace WikiPage

/-- A kind, or that of a heading without an anchor and with one. -/
inductive NodeKind.Anchored : NodeKind → NodeKind → Prop where
  | same (kind : NodeKind) : Anchored kind kind
  | made (level : Nat) (classes : List String) (id : String) :
      Anchored (.heading level none classes) (.heading level (some id) classes)

/-- Two trees that are the same but for anchors of headings that have none in the first. -/
inductive Node.Anchored : Node → Node → Prop where
  | node {kind kind' : NodeKind} {children children' : List Node} (span : Option Span)
      (hkind : kind.Anchored kind') (hchildren : List.Forall₂ Node.Anchored children children') :
      Anchored ⟨kind, children, span⟩ ⟨kind', children', span⟩

/-- The heading that a node is, with its trimmed text. -/
def Node.heading? (n : Node) : Option Heading :=
  match n.kind with
  | .heading level id _ => some ⟨level, id, Text.trimmed n.plainText⟩
  | _ => none

/-- An entry of a table of contents as the heading that it stands for. -/
def TocEntry.heading (e : TocEntry) : Heading := ⟨e.level, some e.id, e.title⟩

namespace Outline

/-! ## 1. The tree -/

mutual
/-- The headings of a tree are among its nodes, in document order. -/
theorem headings_eq_filterMap : ∀ n : Node, n.headings = n.preorder.filterMap Node.heading?
  | ⟨kind, children, span⟩ => by
    have ih := headingsAll_eq_filterMap children
    cases kind <;> simp [Node.headings, Node.preorder, List.filterMap_cons, Node.heading?,
      Node.plainText, NodeKind.ownText, NodeKind.textValue, ih]
theorem headingsAll_eq_filterMap : ∀ ns : List Node,
    Node.headingsAll ns = (Node.preorderAll ns).filterMap Node.heading?
  | [] => rfl
  | n :: rest => by
    rw [Node.headingsAll, Node.preorderAll, List.filterMap_append, headings_eq_filterMap n,
      headingsAll_eq_filterMap rest]
end

/-- A heading keeps its anchor, or gets one if it has none. -/
theorem anchored_visit (policy : HeadingPolicy) (p : Progress) (level : Nat) (id : Option String)
    (text : String) (classes : List String) : (NodeKind.heading level id classes).Anchored
      (.heading level (visit policy p level id text).1 classes) := by
  unfold visit
  split
  · exact .same _
  split
  · exact .same _
  cases id with
  | some given => exact .same _
  | none => exact .made level classes _

mutual
/-- **The walk adds anchors** and nothing else. -/
theorem anchored_walk (policy : HeadingPolicy) : ∀ (n : Node) (p : Progress),
    n.Anchored (walk policy p n).1
  | ⟨kind, children, span⟩, p => by
    have ih := anchored_walkAll policy children
    cases kind with
    | heading level id classes =>
      simp only [walk]
      exact .node span (anchored_visit policy p level id _ classes) (ih _)
    | _ => exact .node span (.same _) (ih p)
theorem anchored_walkAll (policy : HeadingPolicy) : ∀ (ns : List Node) (p : Progress),
    List.Forall₂ Node.Anchored ns (walkAll policy p ns).1
  | [], _ => .nil
  | n :: rest, p => .cons (anchored_walk policy n p) (anchored_walkAll policy rest _)
end

theorem visit_unassigned (extract : Bool) (p : Progress) (level : Nat) (id : Option String)
    (text : String) : (visit ⟨false, extract⟩ p level id text).1 = id := by
  unfold visit
  split <;> rfl

mutual
/-- Without assignment the walk changes nothing. -/
theorem walk_unassigned (extract : Bool) : ∀ (n : Node) (p : Progress),
    (walk ⟨false, extract⟩ p n).1 = n
  | ⟨kind, children, span⟩, p => by
    have ih := walkAll_unassigned extract children
    cases kind <;> simp only [walk, ih, visit_unassigned]
theorem walkAll_unassigned (extract : Bool) : ∀ (ns : List Node) (p : Progress),
    (walkAll ⟨false, extract⟩ p ns).1 = ns
  | [], _ => rfl
  | n :: rest, p => by
    simp only [walkAll, walk_unassigned extract n, walkAll_unassigned extract rest]
end

/-- The rule for headings: it takes note of a heading and gives it its anchor. -/
def anchoring (policy : HeadingPolicy) (_ : Place) (n : Node) (p : Progress) : Node × Progress :=
  match n.kind with
  | .heading level id classes =>
    let (id, p) := visit policy p level id (Text.trimmed n.plainText)
    (⟨.heading level id classes, n.children, n.span⟩, p)
  | _ => (n, p)

theorem passChildren_walk (policy : HeadingPolicy) (parent : NodeKind) (ns : List Node) :
    ∀ (index : Nat) (p : Progress),
      Node.passChildren (fun _ n p => walk policy p n) parent index ns p = walkAll policy p ns := by
  induction ns with
  | nil => exact fun _ _ => rfl
  | cons n rest ih =>
    intro index p
    simp only [Node.passChildren, ih, walkAll]

/-- **Headings are gone through by a walk** that offers every node to the rule. -/
theorem isWalk_anchoring (policy : HeadingPolicy) :
    Node.IsWalk (anchoring policy) fun _ n p => walk policy p n := by
  intro place n p
  obtain ⟨kind, children, span⟩ := n
  dsimp only
  rw [passChildren_walk]
  cases kind with
  | heading level id classes =>
    simp only [anchoring, walk, Node.withChildren, Node.plainText, NodeKind.ownText,
      NodeKind.textValue, Option.getD_none, String.empty_append]
  | _ => rfl

/-! ## 2. Title and table of contents -/

/-- The heading that is taken as the title. -/
def titleOf (extract : Bool) (hs : List Heading) : Option Heading :=
  if extract then hs.find? (·.level == 1) else none

/-- The headings besides the title. -/
def listed (extract : Bool) (hs : List Heading) : List Heading :=
  if extract then hs.eraseP (·.level == 1) else hs

theorem taken_cons {extract : Bool} {h : Heading} (hh : (extract && h.level == 1) = true)
    (hs : List Heading) : titleOf extract (h :: hs) = some h ∧ listed extract (h :: hs) = hs := by
  obtain ⟨rfl, hlevel⟩ := Bool.and_eq_true_iff.1 hh
  simp [titleOf, listed, hlevel]

theorem listed_cons {extract : Bool} {h : Heading} (hh : (extract && h.level == 1) = false)
    (hs : List Heading) :
    titleOf extract (h :: hs) = titleOf extract hs ∧
      listed extract (h :: hs) = h :: listed extract hs := by
  cases extract with
  | false => exact ⟨rfl, rfl⟩
  | true =>
    have hlevel : (h.level == 1) = false := hh
    simp [titleOf, listed, hlevel]

/-- **All that one heading can do**: be the title, be left out, or be listed with its anchor. -/
theorem visit_cases (policy : HeadingPolicy) (p : Progress) (h : Heading) :
    (policy.extractTitle && p.title.isNone && h.level == 1) = true ∧
        visit policy p h.level h.id h.text = (h.id, { p with title := some h.text }) ∨
      (policy.extractTitle && p.title.isNone && h.level == 1) = false ∧
        (policy.assignIds = false ∧ visit policy p h.level h.id h.text = (h.id, p) ∨
          policy.assignIds = true ∧ ∃ anchor uses, visit policy p h.level h.id h.text =
            (some anchor, { p with uses, reversed := ⟨h.level, h.text, anchor⟩ :: p.reversed })) := by
  rw [Bool.and_right_comm]
  unfold visit
  cases htitle : policy.extractTitle && h.level == 1 && p.title.isNone with
  | true => exact .inl ⟨rfl, rfl⟩
  | false =>
    refine .inr ⟨rfl, ?_⟩
    cases hassign : policy.assignIds with
    | false => exact .inl ⟨rfl, rfl⟩
    | true =>
      refine .inr ⟨rfl, ?_⟩
      cases h.id with
      | some given => exact ⟨given, _, rfl⟩
      | none => exact ⟨_, _, rfl⟩

/-- **What a row of headings does**: the first one of level one becomes the title and keeps its anchor,
and the others are listed in order, each with the anchor that it then has. -/
theorem visitAll_spec (policy : HeadingPolicy) (hs : List Heading) : ∀ p : Progress,
    (visitAll policy p hs).2.title =
        p.title.or ((titleOf (policy.extractTitle && p.title.isNone) hs).map (·.text)) ∧
      titleOf (policy.extractTitle && p.title.isNone) (visitAll policy p hs).1 =
        titleOf (policy.extractTitle && p.title.isNone) hs ∧
      (visitAll policy p hs).2.reversed.reverse.map TocEntry.heading =
        p.reversed.reverse.map TocEntry.heading ++
          if policy.assignIds then
            listed (policy.extractTitle && p.title.isNone) (visitAll policy p hs).1
          else [] := by
  induction hs with
  | nil => intro p; simp [visitAll, titleOf, listed]
  | cons h rest ih =>
    intro p
    obtain ⟨htitle, hvisit⟩ | ⟨htitle, ⟨hassign, hvisit⟩ | ⟨hassign, anchor, uses, hvisit⟩⟩ :=
      visit_cases policy p h
    · -- the title; nothing after it can be one
      obtain ⟨ht, hf, hl⟩ := ih { p with title := some h.text }
      have hnone : p.title = none := by
        simp only [Bool.and_eq_true, Option.isNone_iff_eq_none] at htitle
        exact htitle.1.2
      simp only [Option.isNone_some, Bool.and_false] at ht hf hl
      simp only [visitAll, hvisit, (taken_cons htitle _).1, (taken_cons htitle _).2, ht, hl]
      simp [hnone, listed]
    · -- left out
      obtain ⟨ht, hf, hl⟩ := ih p
      simp only [visitAll, hvisit, (listed_cons htitle _).1, ht, hf, hl]
      simp [hassign]
    · -- listed
      obtain ⟨ht, hf, hl⟩ :=
        ih { p with uses, reversed := ⟨h.level, h.text, anchor⟩ :: p.reversed }
      have htitle' : (policy.extractTitle && p.title.isNone &&
          ({ h with id := some anchor } : Heading).level == 1) = false := htitle
      simp only [visitAll, hvisit, (listed_cons htitle _).1, (listed_cons htitle' _).1,
        (listed_cons htitle' _).2, ht, hf, hl]
      simp [hassign, TocEntry.heading]

/-- **The outline of a page agrees with the tree.**  Without assignment the tree stays as it is and the
table of contents is empty.  With it, the tree gets anchors and nothing else changes, the first heading
of level one keeps the anchor that it had, and the table of contents is the list of the others in the
tree that is given back, in document order, with level, text and anchor.  The title is the text of that
heading in both cases.  The walk that offers every node to the rule for headings gives the same
tree, and the outline is what the rule has taken note of. -/
theorem outlined_contents (n : Node) (extract : Bool) :
    n.outlined ⟨false, extract⟩ =
        (n, ⟨(titleOf extract (n.preorder.filterMap Node.heading?)).map (·.text), []⟩) ∧
      n.Anchored (n.outlined ⟨true, extract⟩).1 ∧
      (n.outlined ⟨true, extract⟩).2.title =
        (titleOf extract (n.preorder.filterMap Node.heading?)).map (·.text) ∧
      titleOf extract ((n.outlined ⟨true, extract⟩).1.preorder.filterMap Node.heading?) =
        titleOf extract (n.preorder.filterMap Node.heading?) ∧
      (n.outlined ⟨true, extract⟩).2.toc.map TocEntry.heading =
        listed extract ((n.outlined ⟨true, extract⟩).1.preorder.filterMap Node.heading?) ∧
      ∀ (assign : Bool) (levels : Nat), (n.outlined ⟨assign, extract⟩).1.depth ≤ levels → ∃ p,
        n.map? (anchoring ⟨assign, extract⟩) levels .top {} =
            some ((n.outlined ⟨assign, extract⟩).1, p) ∧
          (n.outlined ⟨assign, extract⟩).2 = ⟨p.title, p.reversed.reverse⟩ := by
  have hwalk : ∀ assign, (((walk ⟨assign, extract⟩ {} n).1.headings,
      (walk ⟨assign, extract⟩ {} n).2)) = visitAll ⟨assign, extract⟩ {} n.headings :=
    fun assign => headings_walk ⟨assign, extract⟩ n {}
  have hspec := fun assign => visitAll_spec ⟨assign, extract⟩ n.headings {}
  simp only [← hwalk, Option.isNone_none, Bool.and_true, Option.none_or, List.reverse_nil,
    List.map_nil, List.nil_append] at hspec
  simp only [← headings_eq_filterMap]
  have hmap : ∀ assign levels, (n.outlined ⟨assign, extract⟩).1.depth ≤ levels →
      n.map? (anchoring ⟨assign, extract⟩) levels .top {} = some (walk ⟨assign, extract⟩ {} n) :=
    fun _ _ hlevels => Node.map?_of_isWalk (isWalk_anchoring _) hlevels
  refine ⟨?_, anchored_walk _ n {}, (hspec true).1, (hspec true).2.1, (hspec true).2.2,
    fun assign levels hlevels => ⟨_, hmap assign levels hlevels, rfl⟩⟩
  have htoc : (walk ⟨false, extract⟩ {} n).2.reversed.reverse = [] :=
    List.map_eq_nil_iff.1 (hspec false).2.2
  have hout : n.outlined ⟨false, extract⟩ = ((walk ⟨false, extract⟩ {} n).1,
      ⟨(walk ⟨false, extract⟩ {} n).2.title, (walk ⟨false, extract⟩ {} n).2.reversed.reverse⟩) := rfl
  rw [hout, walk_unassigned, (hspec false).1, htoc]

/-- A title with an anchor of its own, between a heading before it and one inside of a block. -/
example :
    let news (level : Nat) : Node := ⟨.heading level none [], [.text "News"], none⟩
    let page : Node := ⟨.heading 1 (some "top") [], [.text "Page "], none⟩
    let box : Node := ⟨.element "box" .empty, [news 1], none⟩
    ((⟨.root, [news 2, page, box], none⟩ : Node).outlined ⟨true, true⟩).2 =
      ⟨some "Page", [⟨2, "News", "news"⟩, ⟨1, "News", "news-1"⟩]⟩ := by
  decide +kernel

end Outline

end WikiPage
