import Mathlib.Data.List.Chain
import WikiPage.Proofs.ReadTrees
import WikiPage.Tree.Rewrite
/-!
# Runs of text and of raw markup

A marker is looked for in a paragraph that holds one text.  That a text is one node, however it was
cut into events, is what reading is for: no two neighbours are both text, or both raw markup.  Links
for addresses keep it so, wherever in a text the addresses are found.

* `MaximalRuns` says it of the children of a node, and `Everywhere MaximalRuns` of a tree.
* `Assembly.MaximalRuns` is the invariant of reading: `maximalRuns_step` for one event,
  `maximalRuns_feed` for a run of events, `maximalRuns_treeOfEvents` for a tree.
* `Divides` is what is asked of a finder of addresses; `divides_cuts`, the one of this library does
  it.
* `isWalk_linking`: links are what the walk makes that offers every node to one rule.
* `maximalRuns_autolinkWith`: what stands for a text has runs as long as they can be, and nothing
  around it continues them.
* `emptyTexts_autolinkWith`: no text is made with nothing in it.
* `maximal_runs` puts these together; `maximalRuns_parse` says what it means for a page.
-/

namespace WikiPage

open Node

/-! ## 1. Neighbours -/

namespace Node

/-- Whether the node is raw markup. -/
def isMarkup (n : Node) : Bool :=
  match n.kind with
  | .html _ => true
  | _ => false

/-- Whether two neighbours are two runs: they are not both text, and not both raw markup. -/
def Apart (a b : Node) : Prop :=
  ¬(a.isText = true ∧ b.isText = true) ∧ ¬(a.isMarkup = true ∧ b.isMarkup = true)

instance : DecidableRel Apart := fun _ _ => inferInstanceAs (Decidable (_ ∧ _))

/-- **Whether runs are maximal** among the children of a node: no neighbours are both text, and none
are both raw markup. -/
def MaximalRuns (n : Node) : Prop := n.children.IsChain Apart

instance (n : Node) : Decidable n.MaximalRuns :=
  inferInstanceAs (Decidable (n.children.IsChain Apart))

/-- Two texts beside one another are one run in two pieces. -/
example : ¬ (paragraph [text "a", text "b"]).MaximalRuns := by decide

theorem Apart.symm {a b : Node} (h : Apart a b) : Apart b a :=
  ⟨fun hab => h.1 hab.symm, fun hab => h.2 hab.symm⟩

/-- A node is apart from its neighbours if it is text, or raw markup, only where another one is that
is apart from them. -/
theorem Apart.of_imp {a m k : Node} (h : Apart a k) (htext : m.isText = true → a.isText = true)
    (hmarkup : m.isMarkup = true → a.isMarkup = true) : Apart m k :=
  ⟨fun hmk => h.1 (hmk.imp_left htext), fun hmk => h.2 (hmk.imp_left hmarkup)⟩

theorem isText_iff {n : Node} : n.isText = true ↔ ∃ value, n.kind = .text value := by
  obtain ⟨kind, children, span⟩ := n
  cases kind <;> simp [isText]

theorem isMarkup_iff {n : Node} : n.isMarkup = true ↔ ∃ value, n.kind = .html value := by
  obtain ⟨kind, children, span⟩ := n
  cases kind <;> simp [isMarkup]

instance {P : Node → Prop} [DecidablePred P] (n : Node) : Decidable (n.Everywhere P) :=
  inferInstanceAs (Decidable (∀ m ∈ n.preorder, P m))

/-- What is nothing but text is one text. -/
theorem exists_onlyChild {n : Node} (h : n.MaximalRuns) (hne : n.children ≠ [])
    (htexts : ∀ c ∈ n.children, c.isText = true) : ∃ c, n.onlyChild = some c := by
  obtain ⟨kind, _ | ⟨first, _ | ⟨second, rest⟩⟩, span⟩ := n
  · exact absurd rfl hne
  · exact ⟨first, rfl⟩
  · have hfirst : first.isText = true := htexts first List.mem_cons_self
    have hsecond : second.isText = true := htexts second (List.mem_cons_of_mem _ List.mem_cons_self)
    have hapart : Apart first second := (List.isChain_cons_cons.1 h).1
    exact absurd ⟨hfirst, hsecond⟩ hapart.1

/-- A childless node has no neighbours below it. -/
theorem maximalRuns_leaf (kind : NodeKind) (span : Option Span) :
    Everywhere MaximalRuns ⟨kind, [], span⟩ :=
  everywhere_iff.2 ⟨.nil, fun _ hc => absurd hc List.not_mem_nil⟩

end Node

/-! ## 2. Reading -/

namespace Markdown

/-- What was read so far in a construct that is open: its last child comes first. -/
structure OpenNode.MaximalRuns (o : OpenNode) : Prop where
  row : o.reversed.IsChain Apart
  below : ∀ c ∈ o.reversed, c.Everywhere Node.MaximalRuns

namespace OpenNode

variable {o : OpenNode} {a b both child : Node}

/-- Neighbours are joined unless they are two runs. -/
theorem apart_of_joined? (h : joined? a b = none) : Apart a b := by
  unfold joined? at h
  split at h
  · cases h
  · cases h
  · rename_i htext hmarkup
    constructor
    · rintro ⟨ha, hb⟩
      obtain ⟨x, hx⟩ := isText_iff.1 ha
      obtain ⟨y, hy⟩ := isText_iff.1 hb
      exact htext x y hx hy
    · rintro ⟨ha, hb⟩
      obtain ⟨x, hx⟩ := isMarkup_iff.1 ha
      obtain ⟨y, hy⟩ := isMarkup_iff.1 hb
      exact hmarkup x y hx hy

/-- Joined neighbours are a run of the same sort as before. -/
theorem sort_of_joined? (h : joined? a b = some both) :
    both.isText = a.isText ∧ both.isMarkup = a.isMarkup := by
  unfold joined? at h
  split at h
  · rename_i x y hx hy
    cases h
    simp [isText, isMarkup, hx]
  · rename_i x y hx hy
    cases h
    simp [isText, isMarkup, hx]
  · cases h

/-- Joined neighbours hold what the first of them held. -/
theorem everywhere_of_joined? (h : joined? a b = some both)
    (ha : a.Everywhere Node.MaximalRuns) : both.Everywhere Node.MaximalRuns := by
  obtain ⟨-, -, hchildren⟩ := leaf_of_joined? h
  rw [everywhere_iff, Node.MaximalRuns, hchildren]
  exact everywhere_iff.1 ha

/-- **One child more**: it is joined to the last one, or it begins a run. -/
theorem MaximalRuns.add (h : o.MaximalRuns) (hchild : child.Everywhere Node.MaximalRuns) :
    (o.add child).MaximalRuns := by
  obtain ⟨kind, span, _ | ⟨last, earlier⟩⟩ := o
  · exact ⟨.singleton child, fun c hc => by rwa [List.mem_singleton.1 hc]⟩
  · obtain ⟨hlast, hearlier⟩ := List.forall_mem_cons.1 h.below
    simp only [OpenNode.add]
    split
    · -- what is joined to the last child meets the one before it, as the last child did
      rename_i both hboth
      obtain ⟨htext, hmarkup⟩ := sort_of_joined? hboth
      have hrow : (both :: earlier).IsChain Apart := h.row.imp_head fun hapart =>
        hapart.of_imp (fun ht => by rwa [← htext]) (fun hm => by rwa [← hmarkup])
      exact ⟨hrow, List.forall_mem_cons.2 ⟨everywhere_of_joined? hboth hlast, hearlier⟩⟩
    · rename_i hnone
      have hrow : (child :: last :: earlier).IsChain Apart :=
        List.isChain_cons_cons.2 ⟨(apart_of_joined? hnone).symm, h.row⟩
      exact ⟨hrow, List.forall_mem_cons.2 ⟨hchild, h.below⟩⟩

/-- A construct that has ended. -/
theorem MaximalRuns.close (h : o.MaximalRuns) : o.close.Everywhere Node.MaximalRuns := by
  refine everywhere_iff.2 ⟨?_, fun c hc => h.below c (List.mem_reverse.1 hc)⟩
  have hrow : o.reversed.reverse.IsChain Apart :=
    List.isChain_reverse.2 (h.row.imp fun _ _ hapart => hapart.symm)
  exact hrow

theorem maximalRuns_empty (kind : NodeKind) (span : Option Span) :
    OpenNode.MaximalRuns ⟨kind, span, []⟩ :=
  ⟨.nil, fun _ hc => absurd hc List.not_mem_nil⟩

end OpenNode

namespace Assembly

/-- **The invariant of reading**: runs are maximal in the document and in all that is open. -/
structure MaximalRuns (a : Assembly) : Prop where
  top : a.top.MaximalRuns
  opened : ∀ o ∈ a.opened, o.MaximalRuns

variable {limit : Nat} {a b : Assembly}

theorem maximalRuns_empty (size : Nat) : (empty size).MaximalRuns :=
  ⟨OpenNode.maximalRuns_empty _ _, fun _ ho => absurd ho List.not_mem_nil⟩

theorem MaximalRuns.add (h : a.MaximalRuns) {child : Node}
    (hchild : child.Everywhere Node.MaximalRuns) : (a.add child).MaximalRuns := by
  obtain ⟨top, _ | ⟨inner, outer⟩⟩ := a
  · exact ⟨h.top.add hchild, h.opened⟩
  · obtain ⟨hinner, houter⟩ := List.forall_mem_cons.1 h.opened
    exact ⟨h.top, List.forall_mem_cons.2 ⟨hinner.add hchild, houter⟩⟩

theorem MaximalRuns.leaf (h : a.MaximalRuns) (kind : NodeKind) (span : Span) :
    (a.leaf kind span).MaximalRuns :=
  h.add (maximalRuns_leaf kind (some span))

/-- Text in a block of code is no child of it. -/
theorem MaximalRuns.text (h : a.MaximalRuns) (value : String) (span : Span) :
    (a.text value span).MaximalRuns := by
  unfold Assembly.text
  split
  · obtain ⟨hblock, houter⟩ := List.forall_mem_cons.1 h.opened
    exact ⟨h.top, List.forall_mem_cons.2 ⟨⟨hblock.row, hblock.below⟩, houter⟩⟩
  · exact h.leaf _ span

theorem MaximalRuns.start (h : a.MaximalRuns) {tag : Tag} {span : Span}
    (hb : a.start limit tag span = .ok b) : b.MaximalRuns := by
  unfold Assembly.start at hb
  split at hb
  · cases hb
    exact h
  · split at hb <;> cases hb
    exact ⟨h.top, List.forall_mem_cons.2 ⟨OpenNode.maximalRuns_empty _ _, h.opened⟩⟩

/-- What ends becomes a child of what is around it; what ends too often is passed over. -/
theorem MaximalRuns.closeInner (h : a.MaximalRuns) : a.closeInner.MaximalRuns := by
  obtain ⟨top, _ | ⟨inner, outer⟩⟩ := a
  · exact h
  · obtain ⟨hinner, houter⟩ := List.forall_mem_cons.1 h.opened
    have hrest : MaximalRuns ⟨top, outer⟩ := ⟨h.top, houter⟩
    exact hrest.add hinner.close

theorem MaximalRuns.finish (h : a.MaximalRuns) (tag : Tag) : (a.finish tag).MaximalRuns := by
  unfold Assembly.finish
  split
  · exact h
  · exact h.closeInner

/-- **One event** keeps runs maximal. -/
theorem maximalRuns_step (h : a.MaximalRuns) {e : Located} (hb : a.step limit e = .ok b) :
    b.MaximalRuns := by
  obtain ⟨event, span⟩ := e
  cases event with
  | start tag => exact h.start hb
  | finish tag =>
    cases hb
    exact h.finish tag
  | text value =>
    cases hb
    exact h.text value span
  | _ =>
    cases hb
    exact h.leaf _ span

/-- **A run of events** keeps runs maximal. -/
theorem maximalRuns_feed : ∀ {events : List Located} {a : Assembly}, a.MaximalRuns →
    a.feed limit events = .ok b → b.MaximalRuns
  | [], a, h, hb => by
    cases hb
    exact h
  | e :: events, a, h, hb => by
    obtain ⟨c, hc, hb⟩ := ok_of_bind hb
    exact maximalRuns_feed (maximalRuns_step h hc) hb

theorem maximalRuns_closeMany : ∀ (n : Nat) {a : Assembly}, a.MaximalRuns →
    (closeMany n a).MaximalRuns
  | 0, _, h => h
  | n + 1, _, h => maximalRuns_closeMany n h.closeInner

end Assembly

/-- **Runs are maximal in a tree that was read**, whatever the events were. -/
theorem maximalRuns_treeOfEvents {size limit : Nat} {events : List Located} {tree : Node}
    (h : treeOfEvents size limit events = .ok tree) : tree.Everywhere Node.MaximalRuns := by
  obtain ⟨a, ha, rfl⟩ := ok_of_map h
  have hfed := Assembly.maximalRuns_feed (Assembly.maximalRuns_empty size) ha
  exact (Assembly.maximalRuns_closeMany a.opened.length hfed).top.close

end Markdown

/-! ## 3. Links for what a finder finds -/

namespace Links

/-- **What is asked of a finder**: the addresses that it finds in a text and what stands between
them are all of the text, in order, and none of these pieces is empty. -/
structure Divides (find : List Char → List Cut) : Prop where
  whole : ∀ text, (find text).flatMap Cut.text = text
  nonempty : ∀ text, ∀ cut ∈ find text, cut.text ≠ []

theorem ne_nil_of_mem_plainCut {reversed : List Char} {cut : Cut} (h : cut ∈ plainCut reversed) :
    cut.text ≠ [] := by
  unfold plainCut at h
  split at h
  · cases h
  · rename_i hne
    obtain rfl := List.mem_singleton.1 h
    simpa using hne

/-- An address holds the character it was found by. -/
theorem ne_nil_of_mem_cutsFrom {bytes : Nat} {before text : List Char} {cut : Cut}
    (h : cut ∈ cutsFrom bytes before text) : cut.text ≠ [] := by
  induction bytes, before, text using cutsFrom.induct with
  | case1 bytes before =>
    rw [cutsFrom] at h
    exact ne_nil_of_mem_plainCut h
  | case2 bytes before c after kind back ahead hfound rest ih =>
    rw [cutsFrom, hfound] at h
    rcases List.mem_append.1 h with h | h
    · exact ne_nil_of_mem_plainCut h
    · rcases List.mem_cons.1 h with rfl | h
      · simp
      · exact ih h
  | case3 bytes before c after hnone ih =>
    rw [cutsFrom, hnone] at h
    exact ih h

theorem divides_cuts : Divides cuts where
  whole := text_cuts
  nonempty _ _ := ne_nil_of_mem_cutsFrom

variable {find : List Char → List Cut}

theorem autolinkAllWith_eq_flatten (label : Bool) (ns : List Node) :
    autolinkAllWith find label ns = (ns.map (standsFor find label)).flatten := by
  induction ns with
  | nil => rfl
  | cons n rest ih => rw [autolinkAllWith_cons, List.map_cons, List.flatten_cons, ih]

/-! ## 4. Links as a walk -/

/-- There is nothing to be done for what stands for a text. -/
theorem autolinkWith_of_mem_splitText {n m : Node} {nodes : List Node}
    (h : splitTextWith? find n = some nodes) (hm : m ∈ nodes) : autolinkWith find m = m := by
  obtain ⟨value, base, -, -, rfl⟩ := splitTextWith?_eq_some h
  obtain ⟨part, -, span, -, rfl | ⟨url, rfl⟩⟩ := mem_partNodes_cases hm <;> rfl

/-- What takes the place of a node: the parts of a text with addresses, or the node itself. -/
def takenApart (find : List Char → List Cut) (n : Node) : List Node :=
  (splitTextWith? find n).getD [n]

/-- The rule that makes links: in a node that is no link or image, and that has texts in it, each of
these gives its place to its parts. -/
def linking (find : List Char → List Cut) (_ : Place) (n : Node) (s : Unit) : Node × Unit :=
  if labels n.kind || !n.children.any isText then (n, s)
  else (n.withChildren (n.children.flatMap (takenApart find)), s)

theorem flatMap_takenApart_of_not_isText {ns : List Node} (h : ∀ c ∈ ns, c.isText = false) :
    ns.flatMap (takenApart find) = ns := by
  induction ns with
  | nil => rfl
  | cons c rest ih =>
    obtain ⟨hc, hrest⟩ := List.forall_mem_cons.1 h
    have hstays : splitTextWith? find c = none := splitTextWith?_eq_none fun value hvalue => by
      simp [isText, hvalue] at hc
    rw [List.flatMap_cons, ih hrest, takenApart, hstays]
    rfl

theorem kind_linking (place : Place) (n : Node) (s : Unit) :
    (linking find place n s).1.kind = n.kind ∧ (linking find place n s).1.span = n.span := by
  unfold linking
  split <;> exact ⟨rfl, rfl⟩

/-- The parts stand for a text after the walk has been there. -/
theorem map_autolinkWith_flatMap (ns : List Node) :
    (ns.flatMap (takenApart find)).map (autolinkWith find) = autolinkAllWith find false ns := by
  induction ns with
  | nil => rfl
  | cons n rest ih =>
    rw [autolinkAllWith_cons, List.flatMap_cons, List.map_append, ih, standsFor, takenApart]
    congr 1
    cases h : splitTextWith? find n with
    | none => rfl
    | some nodes =>
      have hsame : nodes.map (autolinkWith find) = nodes.map id :=
        List.map_congr_left fun m hm => autolinkWith_of_mem_splitText h hm
      rw [List.map_id] at hsame
      exact hsame

theorem autolinkAllWith_label (ns : List Node) :
    autolinkAllWith find true ns = ns.map (autolinkWith find) := by
  induction ns with
  | nil => rfl
  | cons n rest ih => rw [autolinkAllWith_cons, ih, List.map_cons]; rfl

/-- **The children of what the rule gives**, after the walk has been there. -/
theorem map_autolinkWith_linking (place : Place) (n : Node) (s : Unit) :
    (linking find place n s).1.children.map (autolinkWith find) =
      autolinkAllWith find (labels n.kind) n.children := by
  unfold linking
  split
  · rename_i hnone
    cases hlabel : labels n.kind with
    | true => exact (autolinkAllWith_label n.children).symm
    | false =>
      have htexts : ∀ c ∈ n.children, c.isText = false := by simpa [hlabel] using hnone
      rw [← map_autolinkWith_flatMap, flatMap_takenApart_of_not_isText htexts]
  · rename_i hsome
    have hlabel : labels n.kind = false := by
      simp only [Bool.or_eq_true, not_or, Bool.not_eq_true] at hsome
      exact hsome.1
    rw [hlabel]
    exact map_autolinkWith_flatMap n.children

theorem passChildren_autolinkWith (parent : NodeKind) (ns : List Node) (s : Unit) : ∀ index : Nat,
    passChildren (fun _ n s => (autolinkWith find n, s)) parent index ns s =
      (ns.map (autolinkWith find), s) := by
  induction ns with
  | nil => exact fun _ => rfl
  | cons n rest ih =>
    intro index
    simp only [passChildren, ih (index + 1), List.map_cons]

/-- **Links are made by a walk** that offers every node to the rule, the new ones among them. -/
theorem isWalk_linking (find : List Char → List Cut) :
    IsWalk (linking find) fun _ n s => (autolinkWith find n, s) := by
  intro place n s
  obtain ⟨hkind, hspan⟩ := @kind_linking find place n s
  have hchildren := @map_autolinkWith_linking find place n s
  dsimp only
  rw [passChildren_autolinkWith, hchildren]
  obtain ⟨kind, children, span⟩ := n
  rw [autolinkWith, withChildren, hkind, hspan]

/-! ## 5. The parts of a text -/

/-- **Neighbouring parts** are not both without a link: addresses that are not linked are one part
with what is around them. -/
theorem isChain_linked (cuts : List Cut) :
    (linked cuts).IsChain fun a b => a.target.isSome = true ∨ b.target.isSome = true := by
  induction cuts with
  | nil => exact .nil
  | cons cut rest ih =>
    unfold linked
    split
    · exact List.isChain_cons.2 ⟨fun _ _ => .inl rfl, ih⟩
    · split
      · rename_i text more hrest
        rw [hrest] at ih
        refine ih.imp_head fun hpart => ?_
        exact hpart
      · rename_i hhead
        refine List.isChain_cons.2 ⟨fun part hpart => .inr ?_, ih⟩
        obtain ⟨target, text⟩ := part
        obtain ⟨more, hmore⟩ := List.head?_eq_some_iff.1 hpart
        cases target with
        | some url => rfl
        | none => exact absurd hmore (hhead text more)

/-- The parts hold something when the pieces do. -/
theorem ne_nil_of_mem_linked {cuts : List Cut} (hcuts : ∀ cut ∈ cuts, cut.text ≠ []) :
    ∀ part ∈ linked cuts, part.text ≠ [] := by
  induction cuts with
  | nil => exact List.forall_mem_nil _
  | cons cut rest ih =>
    obtain ⟨hcut, hrest⟩ := List.forall_mem_cons.1 hcuts
    have ih := ih hrest
    unfold linked
    split
    · exact List.forall_mem_cons.2 ⟨hcut, ih⟩
    · split
      · rename_i text more hlinked
        rw [hlinked] at ih
        refine List.forall_mem_cons.2 ⟨?_, (List.forall_mem_cons.1 ih).2⟩
        exact List.append_ne_nil_of_left_ne_nil hcut _
      · exact List.forall_mem_cons.2 ⟨hcut, ih⟩

/-- A part is a text, unless it is linked; it is no raw markup. -/
theorem head?_partNodes {base : Option Nat} {offset : Nat} {part : LinkedPart}
    {rest : List LinkedPart} {m : Node} (h : m ∈ (partNodes base offset (part :: rest)).head?) :
    (part.target.isSome = true → m.isText = false) ∧ m.isMarkup = false := by
  obtain ⟨target, text⟩ := part
  cases target <;> cases h
  · exact ⟨nofun, rfl⟩
  · exact ⟨fun _ => rfl, rfl⟩

/-- **The nodes of the parts** are runs as long as they can be. -/
theorem isChain_partNodes {base : Option Nat} {parts : List LinkedPart}
    (h : parts.IsChain fun a b => a.target.isSome = true ∨ b.target.isSome = true)
    (offset : Nat) : (partNodes base offset parts).IsChain Apart := by
  induction h generalizing offset with
  | nil => exact .nil
  | singleton part => exact .singleton _
  | cons_cons hparts _ ih =>
    rename_i first second rest _
    obtain ⟨target, text⟩ := first
    refine List.isChain_cons.2 ⟨fun m hm => ?_, ih (offset + Text.byteLength text)⟩
    obtain ⟨htext, hmarkup⟩ := head?_partNodes hm
    refine ⟨fun hboth => ?_, fun hboth => by rw [hmarkup] at hboth; cases hboth.2⟩
    rcases hparts with hfirst | hsecond
    · cases target with
      | some url => cases hboth.1
      | none => cases hfirst
    · rw [htext hsecond] at hboth
      cases hboth.2

/-! ## 6. Runs after links have been made -/

theorem maximalRuns_of_mem_splitText {n m : Node} {nodes : List Node}
    (h : splitTextWith? find n = some nodes) (hm : m ∈ nodes) : m.Everywhere MaximalRuns := by
  obtain ⟨value, base, -, -, rfl⟩ := splitTextWith?_eq_some h
  obtain ⟨part, -, span, -, rfl | ⟨url, rfl⟩⟩ := mem_partNodes_cases hm
  · exact maximalRuns_leaf _ span
  · refine everywhere_iff.2 ⟨.singleton _, fun c hc => ?_⟩
    rw [List.mem_singleton.1 hc]
    exact maximalRuns_leaf _ span

theorem standsFor_ne_nil (label : Bool) (n : Node) : standsFor find label n ≠ [] := by
  obtain h | ⟨nodes, -, hsplit, h⟩ := standsFor_cases find label n <;> rw [h]
  · exact List.cons_ne_nil _ _
  · obtain ⟨value, base, -, hany, rfl⟩ := splitTextWith?_eq_some hsplit
    intro hnil
    cases hparts : linked (find value.toList) with
    | nil =>
      rw [hparts] at hany
      cases hany
    | cons part rest =>
      rw [hparts] at hnil
      cases hnil

/-- **What stands for a node** is apart from what the node is apart from: only for a text there are
texts, and raw markup stands only for itself. -/
theorem apart_of_mem_standsFor {label : Bool} {n m k : Node} (hm : m ∈ standsFor find label n)
    (h : Apart n k) : Apart m k := by
  obtain hall | ⟨nodes, -, hsplit, hall⟩ := standsFor_cases find label n <;> rw [hall] at hm
  · obtain rfl := List.mem_singleton.1 hm
    cases n
    exact h
  · obtain ⟨value, base, hkind, -, rfl⟩ := splitTextWith?_eq_some hsplit
    have htext : n.isText = true := isText_iff.2 ⟨value, hkind⟩
    refine h.of_imp (fun _ => htext) fun hmarkup => ?_
    obtain ⟨part, -, span, -, rfl | ⟨url, rfl⟩⟩ := mem_partNodes_cases hm <;> cases hmarkup

theorem isChain_standsFor (label : Bool) (n : Node) :
    (standsFor find label n).IsChain Apart := by
  obtain h | ⟨nodes, -, hsplit, h⟩ := standsFor_cases find label n <;> rw [h]
  · exact .singleton _
  · obtain ⟨value, base, -, -, rfl⟩ := splitTextWith?_eq_some hsplit
    exact isChain_partNodes (isChain_linked _) 0

/-- **Neighbours** stay apart, each by what stands for it. -/
theorem isChain_autolinkAllWith {label : Bool} {ns : List Node} (h : ns.IsChain Apart) :
    (autolinkAllWith find label ns).IsChain Apart := by
  have hnonempty : [] ∉ ns.map (standsFor find label) := fun hnil => by
    obtain ⟨n, -, hn⟩ := List.mem_map.1 hnil
    exact standsFor_ne_nil label n hn
  rw [autolinkAllWith_eq_flatten, List.isChain_flatten hnonempty, List.isChain_map]
  constructor
  · intro nodes hnodes
    obtain ⟨n, -, rfl⟩ := List.mem_map.1 hnodes
    exact isChain_standsFor label n
  · -- the last node for `a` meets the first one for `b`
    refine h.imp fun a b hab x hx y hy => ?_
    have hxb : Apart x b := apart_of_mem_standsFor (List.mem_of_mem_getLast? hx) hab
    exact (apart_of_mem_standsFor (List.mem_of_mem_head? hy) hxb.symm).symm

mutual
/-- **Links keep runs maximal**, wherever addresses are found. -/
theorem maximalRuns_autolinkWith : ∀ n : Node, n.Everywhere MaximalRuns →
    (autolinkWith find n).Everywhere MaximalRuns
  | ⟨kind, children, span⟩, h => by
    obtain ⟨hself, hchildren⟩ := everywhere_iff.1 h
    have hrow : (autolinkAllWith find (labels kind) children).IsChain Apart :=
      isChain_autolinkAllWith hself
    exact everywhere_iff.2 ⟨hrow, maximalRuns_autolinkAllWith (labels kind) children hchildren⟩
theorem maximalRuns_autolinkAllWith (label : Bool) : ∀ ns : List Node,
    (∀ n ∈ ns, n.Everywhere MaximalRuns) →
      ∀ m ∈ autolinkAllWith find label ns, m.Everywhere MaximalRuns
  | [], _ => fun _ hm => absurd hm List.not_mem_nil
  | n :: rest, h => by
    obtain ⟨hn, hrest⟩ := List.forall_mem_cons.1 h
    have ih := maximalRuns_autolinkAllWith label rest hrest
    rw [autolinkAllWith_eq_flatten] at ih ⊢
    rw [List.map_cons, List.flatten_cons]
    refine List.forall_mem_append.2 ⟨fun m hm => ?_, ih⟩
    obtain hall | ⟨nodes, -, hsplit, hall⟩ := standsFor_cases find label n <;> rw [hall] at hm
    · rw [List.mem_singleton.1 hm]
      exact maximalRuns_autolinkWith n hn
    · exact maximalRuns_of_mem_splitText hsplit hm
end

/-! ## 7. Texts with nothing in them -/

/-- The texts in trees that have nothing in them, in document order. -/
def emptyTextsAll (ns : List Node) : List Node :=
  (preorderAll ns).filter fun m => m.kind = .text ""

/-- The texts of a tree that have nothing in them, in document order. -/
def emptyTexts (n : Node) : List Node := n.preorder.filter fun m => m.kind = .text ""

/-- Whether a node, if it is a text, has no children. -/
def ChildlessText (n : Node) : Prop := n.isText = true → n.children = []

instance (n : Node) : Decidable (ChildlessText n) :=
  inferInstanceAs (Decidable (_ → n.children = []))

theorem emptyTextsAll_cons (n : Node) (ns : List Node) :
    emptyTextsAll (n :: ns) = emptyTexts n ++ emptyTextsAll ns :=
  List.filter_append ..

theorem emptyTextsAll_append (a b : List Node) :
    emptyTextsAll (a ++ b) = emptyTextsAll a ++ emptyTextsAll b := by
  induction a with
  | nil => rfl
  | cons n a ih =>
    rw [List.cons_append, emptyTextsAll_cons, emptyTextsAll_cons, ih, List.append_assoc]

theorem emptyTexts_of_ne {n : Node} (h : n.kind ≠ .text "") :
    emptyTexts n = emptyTextsAll n.children := by
  obtain ⟨kind, children, span⟩ := n
  exact List.filter_cons_of_neg (by simpa using h)

theorem emptyTextsAll_eq_nil {ns : List Node} (h : ∀ n ∈ ns, emptyTexts n = []) :
    emptyTextsAll ns = [] := by
  induction ns with
  | nil => rfl
  | cons n rest ih =>
    obtain ⟨hn, hrest⟩ := List.forall_mem_cons.1 h
    rw [emptyTextsAll_cons, hn, ih hrest]
    rfl

/-- A text of characters is not empty. -/
theorem text_ne_empty {text : List Char} (h : text ≠ []) :
    NodeKind.text (String.ofList text) ≠ .text "" := fun heq =>
  h (String.ofList_injective (NodeKind.text.inj heq))

/-- **The parts of a text** are not empty. -/
theorem emptyTextsAll_partNodes {base : Option Nat} {offset : Nat} {parts : List LinkedPart}
    (h : ∀ part ∈ parts, part.text ≠ []) : emptyTextsAll (partNodes base offset parts) = [] := by
  refine emptyTextsAll_eq_nil fun m hm => ?_
  obtain ⟨part, hpart, span, -, hm⟩ := mem_partNodes_cases hm
  have hlabel : emptyTexts ⟨.text (String.ofList part.text), [], span⟩ = [] :=
    emptyTexts_of_ne (text_ne_empty (h part hpart))
  rcases hm with rfl | ⟨url, rfl⟩
  · exact hlabel
  · have hlink : NodeKind.link url "" ≠ .text "" := nofun
    rw [emptyTexts_of_ne hlink]
    exact emptyTextsAll_eq_nil fun c hc => by rwa [List.mem_singleton.1 hc]

/-- There is nothing to be found in an empty text. -/
theorem Divides.find_nil (h : Divides find) : find [] = [] := by
  refine List.eq_nil_iff_forall_not_mem.2 fun cut hcut => h.nonempty [] cut hcut ?_
  exact List.flatMap_eq_nil_iff.1 (h.whole []) cut hcut

/-- Neither a text that is taken apart nor what stands for it has empty texts. -/
theorem emptyTexts_of_splitText (hfind : Divides find) {n : Node} {nodes : List Node}
    (hn : ChildlessText n) (h : splitTextWith? find n = some nodes) :
    emptyTexts n = [] ∧ emptyTextsAll nodes = [] := by
  obtain ⟨value, base, hkind, hany, rfl⟩ := splitTextWith?_eq_some h
  constructor
  · have hvalue : n.kind ≠ .text "" := fun hempty => by
      obtain rfl : value = "" := NodeKind.text.inj (hkind.symm.trans hempty)
      have hnone : find "".toList = [] := hfind.find_nil
      rw [hnone] at hany
      cases hany
    rw [emptyTexts_of_ne hvalue, hn (isText_iff.2 ⟨value, hkind⟩)]
    rfl
  · exact emptyTextsAll_partNodes (ne_nil_of_mem_linked (hfind.nonempty _))

mutual
/-- **Links make no empty texts**: there are those that were there before. -/
theorem emptyTexts_autolinkWith (hfind : Divides find) : ∀ n : Node, n.Everywhere ChildlessText →
    emptyTexts (autolinkWith find n) = emptyTexts n
  | ⟨kind, children, span⟩, h => by
    obtain ⟨hself, hchildren⟩ := everywhere_iff.1 h
    by_cases hempty : kind = .text ""
    · -- an empty text is the same node afterwards only because there is nothing below it
      obtain rfl : children = [] := hself (isText_iff.2 ⟨"", hempty⟩)
      rfl
    · have ih := emptyTextsAll_autolinkAllWith hfind (labels kind) children hchildren
      rw [autolinkWith, emptyTexts_of_ne hempty, emptyTexts_of_ne hempty]
      exact ih
theorem emptyTextsAll_autolinkAllWith (hfind : Divides find) (label : Bool) : ∀ ns : List Node,
    (∀ n ∈ ns, n.Everywhere ChildlessText) →
      emptyTextsAll (autolinkAllWith find label ns) = emptyTextsAll ns
  | [], _ => rfl
  | n :: rest, h => by
    obtain ⟨hn, hrest⟩ := List.forall_mem_cons.1 h
    have ih := emptyTextsAll_autolinkAllWith hfind label rest hrest
    rw [autolinkAllWith_eq_flatten] at ih ⊢
    rw [List.map_cons, List.flatten_cons, emptyTextsAll_append, emptyTextsAll_cons, ih]
    congr 1
    obtain hall | ⟨nodes, -, hsplit, hall⟩ := standsFor_cases find label n <;> rw [hall]
    · rw [emptyTextsAll_cons, emptyTexts_autolinkWith hfind n hn]
      exact List.append_nil _
    · obtain ⟨hbefore, hafter⟩ := emptyTexts_of_splitText hfind (everywhere_iff.1 hn).1 hsplit
      rw [hbefore, hafter]
end

end Links

/-! ## 8. Pages -/

/-- **Runs are maximal in a page as it is read**, with links or without.  So what holds nothing but
text holds one text, which is where a marker is looked for. -/
theorem maximalRuns_parse {options : Markdown.ParseOptions} {source : String} {tree : Node}
    (h : Markdown.parse options source = .ok tree) : tree.Everywhere MaximalRuns ∧
      ∀ n ∈ tree.preorder, n.children ≠ [] → (∀ c ∈ n.children, c.isText = true) →
        ∃ c, n.onlyChild = some c := by
  obtain ⟨read, hread, rfl⟩ := ok_of_map h
  have hruns := Markdown.maximalRuns_treeOfEvents hread
  have hall : Everywhere MaximalRuns (if options.gfm then Links.autolink read else read) := by
    split
    · exact Links.maximalRuns_autolinkWith read hruns
    · exact hruns
  exact ⟨hall, fun n hn => exists_onlyChild (hall n hn)⟩

open Links in
/-- **Runs are maximal.**  In a tree that was read no neighbours are both text, and none are both
raw markup, whatever the events were.  Links keep this, wherever addresses are found in the texts of
a tree.  A finder that divides texts into pieces with something in them makes no empty text either:
when texts have no children, the empty texts of a tree are those that it had before.  The finder of
this library is such a finder.  Links are made by the walk that offers every node to one rule, at
every number of levels that covers what is made.  In a page as it is read, what holds nothing but
text holds one text. -/
theorem maximal_runs :
    (∀ (size limit : Nat) (events : List Markdown.Located) (tree : Node),
      Markdown.treeOfEvents size limit events = .ok tree → tree.Everywhere MaximalRuns) ∧
    (∀ (find : List Char → List Cut) (tree : Node), tree.Everywhere MaximalRuns →
      (autolinkWith find tree).Everywhere MaximalRuns) ∧
    (∀ find : List Char → List Cut, Divides find → ∀ tree : Node, tree.Everywhere ChildlessText →
      emptyTexts (autolinkWith find tree) = emptyTexts tree) ∧
    Divides cuts ∧ (∀ tree : Node, autolinkWith cuts tree = autolink tree) ∧
    (∀ (find : List Char → List Cut) (tree : Node) (levels : Nat),
      (autolinkWith find tree).depth ≤ levels →
        tree.map? (linking find) levels .top () = some (autolinkWith find tree, ())) ∧
    ∀ (options : Markdown.ParseOptions) (source : String) (tree : Node),
      Markdown.parse options source = .ok tree → tree.Everywhere MaximalRuns ∧
        ∀ n ∈ tree.preorder, n.children ≠ [] → (∀ c ∈ n.children, c.isText = true) →
          ∃ c, n.onlyChild = some c :=
  ⟨fun _ _ _ _ h => Markdown.maximalRuns_treeOfEvents h,
    fun _ tree h => maximalRuns_autolinkWith tree h,
    fun _ hfind tree h => emptyTexts_autolinkWith hfind tree h,
    divides_cuts, fun _ => rfl, fun find _ _ => map?_of_isWalk (isWalk_linking find),
    fun _ _ _ h => maximalRuns_parse h⟩

/-- A text with two addresses and one that is not linked, raw markup and an empty text, in a
paragraph that is ended twice; text and markup are cut into pieces. -/
def cutParagraph : List Markdown.Located := [
  (.start .paragraph, ⟨0, 60⟩),
  (.text "see ", ⟨0, 4⟩),
  (.text "https://a.example/ ftp://b.example/ ", ⟨4, 40⟩),
  (.text "www.c.example", ⟨40, 53⟩),
  (.html "<i>", ⟨53, 56⟩),
  (.start .rawBlock, ⟨56, 60⟩),
  (.html "</i>", ⟨56, 60⟩),
  (.finish .rawBlock, ⟨56, 60⟩),
  (.text "", ⟨60, 60⟩),
  (.finish .paragraph, ⟨0, 60⟩),
  (.finish .paragraph, ⟨0, 60⟩),
  (.html "<b>", ⟨60, 63⟩),
  (.html "<br>", ⟨63, 67⟩)]

/-- The tree of these events. -/
def cutParagraphTree : Node :=
  ⟨.root, [
    ⟨.paragraph, [
      ⟨.text "see https://a.example/ ftp://b.example/ www.c.example", [], some ⟨0, 53⟩⟩,
      ⟨.html "<i></i>", [], some ⟨53, 60⟩⟩,
      ⟨.text "", [], some ⟨60, 60⟩⟩], some ⟨0, 60⟩⟩,
    ⟨.html "<b><br>", [], some ⟨60, 67⟩⟩], some ⟨0, 67⟩⟩

open Links in
/-- Its runs are maximal before and after two links are made, and it has one empty text. -/
theorem maximal_runs_cutParagraph :
    Markdown.treeOfEvents 67 8 cutParagraph = .ok cutParagraphTree ∧
      cutParagraphTree.Everywhere MaximalRuns ∧ cutParagraphTree.Everywhere ChildlessText ∧
      ((autolink cutParagraphTree).children.map fun n => n.children.map (·.kind.name)) =
        [["text", "link", "text", "link", "html", "text"], []] ∧
      (autolink cutParagraphTree).Everywhere MaximalRuns ∧
      emptyTexts (autolink cutParagraphTree) = [⟨.text "", [], some ⟨60, 60⟩⟩] ∧
      cutParagraphTree.map? (linking cuts) 4 .top () = some (autolink cutParagraphTree, ()) := by
  obtain ⟨hreading, hlinking, hempty, hdivides, hcuts, hwalk, -⟩ := maximal_runs
  have htree : Markdown.treeOfEvents 67 8 cutParagraph = .ok cutParagraphTree := by
    decide +kernel
  have hruns := hreading 67 8 cutParagraph cutParagraphTree htree
  have hchildless : cutParagraphTree.Everywhere ChildlessText := by decide +kernel
  have hlinked := hlinking cuts cutParagraphTree hruns
  have hkept := hempty cuts hdivides cutParagraphTree hchildless
  rw [hcuts] at hlinked hkept
  exact ⟨htree, hruns, hchildless, by decide +kernel, hlinked, hkept.trans (by decide +kernel),
    hwalk cuts cutParagraphTree 4 (by decide +kernel)⟩

end WikiPage
