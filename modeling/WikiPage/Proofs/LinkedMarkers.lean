import WikiPage.Proofs.Nesting
/-!
# Markers with addresses in them

A marker is a paragraph with nothing in it but one text.  Links for addresses are made in every text
that is no label, so a marker with an address among its parameters is taken apart, and no marker any
more.  This is the only thing that happens to markers: one without an address stays as it is, and
nothing becomes a marker that was none.

* `holdsAddress` and `linksIn`: in which texts and paragraphs links are made.
* `markerText?_autolink`: what a node holds as a marker once links have been made.
* `autolink_markers`: which markers a page still has then.
-/

namespace WikiPage

/-! ## 1. Texts in which links are made -/

namespace Links

open Node

/-- Whether there is an address in a text that is linked. -/
def holdsAddress (text : List Char) : Bool := (cuts text).any (·.target?.isSome)

/-- Whether a node holds nothing but one text, and links are made in it. -/
def linksIn (n : Node) : Bool :=
  match n.onlyChild with
  | some ⟨.text value, _, _⟩ => holdsAddress value.toList
  | _ => false

/-- Plain pieces that are put together are plain. -/
theorem any_linked : ∀ cuts : List Cut,
    (linked cuts).any (·.target.isSome) = cuts.any (·.target?.isSome)
  | [] => rfl
  | cut :: rest => by
    have ih := any_linked rest
    rw [List.any_cons, ← ih, linked]
    cases htarget : cut.target? with
    | some target => rfl
    | none =>
      dsimp only
      split
      · rename_i text more hrest
        rw [hrest]
        rfl
      · rfl

theorem length_partNodes (base : Option Nat) : ∀ (offset : Nat) (parts : List LinkedPart),
    (partNodes base offset parts).length = parts.length
  | _, [] => rfl
  | _, _ :: rest => congrArg (· + 1) (length_partNodes base _ rest)

/-- A single part that is linked is no text. -/
theorem isText_of_partNodes {base : Option Nat} {offset : Nat} {parts : List LinkedPart}
    (hparts : parts.any (·.target.isSome) = true) {only : Node}
    (h : partNodes base offset parts = [only]) : only.isText = false := by
  match parts with
  | [⟨some url, text⟩] =>
    cases h
    rfl
  | [⟨none, text⟩] => cases hparts
  | [] => cases hparts
  | _ :: _ :: _ =>
    have := congrArg List.length h
    simp [length_partNodes] at this

theorem splitText?_text (value : String) (children : List Node) (span : Option Span) :
    (splitText? ⟨.text value, children, span⟩).isSome = holdsAddress value.toList := by
  rw [holdsAddress, ← any_linked]
  simp only [splitText?, splitTextWith?]
  split <;> simp_all

/-- What stands for a text with addresses is not nothing, and not a single text. -/
theorem splitText?_spec {n : Node} {nodes : List Node} (h : splitText? n = some nodes) :
    nodes ≠ [] ∧ ∀ only, nodes = [only] → only.isText = false := by
  obtain ⟨value, base, -, hany, rfl⟩ := splitTextWith?_eq_some h
  refine ⟨fun hnil => ?_, fun only honly => isText_of_partNodes hany honly⟩
  have hlength := congrArg List.length hnil
  rw [length_partNodes] at hlength
  rw [List.length_eq_zero_iff.1 hlength] at hany
  cases hany

/-- Links replace no node by nothing. -/
theorem length_le_autolinkAll (label : Bool) (ns : List Node) :
    ns.length ≤ (autolinkAll label ns).length := by
  induction ns with
  | nil => exact Nat.le_refl 0
  | cons n rest ih =>
    obtain h | ⟨nodes, -, hsplit, h⟩ := autolinkAll_cons_cases label n rest
    · rw [h]
      exact Nat.succ_le_succ ih
    · have hpos := List.length_pos_iff.2 (splitText?_spec hsplit).1
      rw [h, List.length_append, List.length_cons]
      omega

/-! ## 2. Markers after links have been made -/

open Shortcode

theorem markerText?_eq_none {n : Node} (h : ∀ only, n.children = [only] → only.isText = false) :
    markerText? n = none := by
  unfold markerText?
  split
  · split
    · rename_i value _ _ honly
      unfold onlyChild at honly
      split at honly
      · rename_i child hchildren
        obtain rfl := Option.some.inj honly
        exact absurd (h _ hchildren) (by simp [isText])
      · cases honly
    · rfl
  · rfl

/-- What a paragraph with one child holds as a marker. -/
theorem markerText?_paragraph (child : Node) (span : Option Span) :
    markerText? ⟨.paragraph, [child], span⟩ =
      match child.kind with
      | .text value => betweenBraces? value.toList
      | _ => none := by
  obtain ⟨kind, children, childSpan⟩ := child
  cases kind <;> rfl

theorem linksIn_paragraph (child : Node) (span : Option Span) :
    linksIn ⟨.paragraph, [child], span⟩ = (splitText? child).isSome := by
  obtain ⟨kind, children, childSpan⟩ := child
  cases kind with
  | text value => exact (splitText?_text value children childSpan).symm
  | _ => rfl

/-- **Markers and links**: a marker in which links are made is none any more, and there are no other
changes. -/
theorem markerText?_autolink (n : Node) :
    markerText? (autolink n) = if linksIn n then none else markerText? n := by
  obtain ⟨kind, children, span⟩ := n
  cases hparagraph : (⟨kind, children, span⟩ : Node).isParagraph with
  | false =>
    have hafter : (autolink ⟨kind, children, span⟩).isParagraph = false := hparagraph
    simp [markerText?, hparagraph, hafter]
  | true =>
    obtain rfl : kind = .paragraph := by
      cases kind <;> first | rfl | cases hparagraph
    obtain _ | ⟨first, _ | ⟨second, rest⟩⟩ := children
    · rfl
    · rw [linksIn_paragraph]
      cases hsplit : splitText? first with
      | none =>
        have hafter : autolink ⟨.paragraph, [first], span⟩ = ⟨.paragraph, [autolink first], span⟩ := by
          simp [autolink_mk, autolinkAll_cons, labels, hsplit]
        rw [hafter, markerText?_paragraph, markerText?_paragraph, kind_autolink]
        rfl
      | some nodes =>
        have hafter : autolink ⟨.paragraph, [first], span⟩ = ⟨.paragraph, nodes, span⟩ := by
          simp [autolink_mk, autolinkAll_cons, labels, hsplit]
        rw [hafter, markerText?_eq_none (splitText?_spec hsplit).2]
        rfl
    · have hbefore : markerText? ⟨.paragraph, first :: second :: rest, span⟩ = none := rfl
      rw [hbefore, ite_self]
      refine markerText?_eq_none fun only honly => ?_
      have hlength := length_le_autolinkAll (labels .paragraph) (first :: second :: rest)
      rw [show autolinkAll (labels .paragraph) (first :: second :: rest) = [only] from honly] at hlength
      simp at hlength

theorem recognize?_autolink (r : Registry) (n : Node) :
    r.recognize? (autolink n) = if linksIn n then none else r.recognize? n := by
  unfold Registry.recognize? opening?
  rw [markerText?_autolink]
  cases linksIn n <;> rfl

theorem closedTag?_autolink (n : Node) :
    closedTag? (autolink n) = if linksIn n then none else closedTag? n := by
  unfold closedTag?
  rw [markerText?_autolink]
  cases linksIn n <;> rfl

/-! ## 3. Markers of a page -/

theorem isParagraph_of_splitText? {n : Node} {nodes : List Node} (h : splitText? n = some nodes) :
    n.isParagraph = false := by
  obtain ⟨value, -, hkind, -⟩ := splitTextWith?_eq_some h
  simp [isParagraph, hkind]

theorem splitText?_paragraph {n : Node} (h : n.isParagraph = true) : splitText? n = none :=
  splitTextWith?_eq_none fun value hvalue => by simp [isParagraph, hvalue] at h

theorem isParagraph_of_mem_splitText? {n m : Node} {nodes : List Node}
    (h : splitText? n = some nodes) (hm : m ∈ nodes) : m.isParagraph = false := by
  obtain ⟨value, base, -, -, rfl⟩ := splitTextWith?_eq_some h
  obtain ⟨part, -, span, -, rfl | ⟨url, rfl⟩⟩ := mem_partNodes_cases hm <;> rfl

/-- What reads markers alone reads, in a row of nodes after links have been made, what it reads in
those nodes of the row in which no links are made. -/
theorem filterMap_autolinkAll {β : Type} {f : Node → Option β}
    (hf : ∀ n : Node, n.isParagraph = false → f n = none)
    (hlinks : ∀ n, f (autolink n) = if linksIn n then none else f n) (ns : List Node) :
    (autolinkAll false ns).filterMap f = (ns.filter (!linksIn ·)).filterMap f := by
  induction ns with
  | nil => rfl
  | cons n rest ih =>
    obtain h | ⟨nodes, -, hsplit, h⟩ := autolinkAll_cons_cases false n rest
    · rw [h, List.filterMap_cons, hlinks, ih, List.filter_cons]
      cases linksIn n <;> rfl
    · have hnodes : nodes.filterMap f = [] :=
        List.filterMap_eq_nil_iff.2 fun m hm => hf m (isParagraph_of_mem_splitText? hsplit hm)
      have hn : f n = none := hf n (isParagraph_of_splitText? hsplit)
      rw [h, List.filterMap_append, hnodes, List.nil_append, ih, List.filter_cons]
      split
      · rw [List.filterMap_cons, hn]
      · rfl

theorem mem_autolinkAll {n : Node} (hn : n.isParagraph = true) : ∀ {ns : List Node}, n ∈ ns →
    autolink n ∈ autolinkAll false ns
  | first :: rest, h => by
    rcases List.mem_cons.1 h with rfl | h
    · simp [autolinkAll_cons, splitText?_paragraph hn]
    · obtain hall | ⟨nodes, -, -, hall⟩ := autolinkAll_cons_cases false first rest <;> rw [hall]
      · exact List.mem_cons_of_mem _ (mem_autolinkAll hn h)
      · exact List.mem_append_right _ (mem_autolinkAll hn h)

theorem markerText?_of_not_paragraph {n : Node} (h : n.isParagraph = false) :
    markerText? n = none := by
  simp [markerText?, h]

/-- A marker is a paragraph. -/
theorem isParagraph_of_isMarker {r : Registry} {n : Node} (h : r.IsMarker n) :
    n.isParagraph = true := by
  cases hparagraph : n.isParagraph with
  | true => rfl
  | false =>
    have hnone := markerText?_of_not_paragraph hparagraph
    rcases h with h | h <;> simp [Registry.recognize?, opening?, closedTag?, hnone] at h

/-- **Which markers a page has after links have been made**, whatever events it was read from: a
marker stays what it was just when no link is made in it, and then only.  So the shortcodes that are
opened, with their parameters, and the tags that are closed are those of the markers without links, in
their order. -/
theorem autolink_markers (r : Registry) {size limit : Nat} {events : List Markdown.Located}
    {tree : Node} (h : Markdown.treeOfEvents size limit events = .ok tree) :
    (∀ n ∈ tree.children, r.IsMarker n → autolink n ∈ (autolink tree).children ∧
      ((r.recognize? (autolink n) = r.recognize? n ∧ closedTag? (autolink n) = closedTag? n) ↔
        linksIn n = false)) ∧
    (autolink tree).children.filterMap r.recognize? =
      (tree.children.filter (!linksIn ·)).filterMap r.recognize? ∧
    (autolink tree).children.filterMap closedTag? =
      (tree.children.filter (!linksIn ·)).filterMap closedTag? := by
  obtain ⟨kind, children, span⟩ := tree
  obtain rfl : kind = .root := Markdown.kind_treeOfEvents h
  have hchildren : (autolink ⟨.root, children, span⟩).children = autolinkAll false children := rfl
  rw [hchildren]
  refine ⟨fun n hn hmarker => ⟨mem_autolinkAll (isParagraph_of_isMarker hmarker) hn, ?_⟩, ?_, ?_⟩
  · rw [recognize?_autolink, closedTag?_autolink]
    cases hlinks : linksIn n with
    | false => exact iff_of_true ⟨rfl, rfl⟩ rfl
    | true =>
      refine iff_of_false (fun ⟨hrecognize, hclosed⟩ => ?_) (by decide)
      rcases hmarker with hmarker | hmarker
      · rw [← hrecognize] at hmarker
        cases hmarker
      · rw [← hclosed] at hmarker
        cases hmarker
  · refine filterMap_autolinkAll (fun n hn => ?_) (recognize?_autolink r) children
    simp only [Registry.recognize?, opening?, markerText?_of_not_paragraph hn]
  · refine filterMap_autolinkAll (fun n hn => ?_) closedTag?_autolink children
    simp only [closedTag?, markerText?_of_not_paragraph hn]

/-- A note with a mail address among its parameters. -/
def mailNote : String := braced "note by=\"me@example.com\"" ++ "\n\nText\n\n" ++ braced "/note"

/-- The tree of this page before links are made. -/
def mailNoteTree : Node :=
  ⟨.root, [
    ⟨.paragraph, [⟨.text (braced "note by=\"me@example.com\""), [], some ⟨0, 28⟩⟩], some ⟨0, 29⟩⟩,
    ⟨.paragraph, [⟨.text "Text", [], some ⟨30, 34⟩⟩], some ⟨30, 35⟩⟩,
    ⟨.paragraph, [⟨.text (braced "/note"), [], some ⟨36, 45⟩⟩], some ⟨36, 45⟩⟩], some ⟨0, 45⟩⟩

/-- Its closing marker is the only one that it has once the address is a link. -/
theorem autolink_mailNote : Markdown.parseEvents {} mailNote = .ok mailNoteTree ∧
    (autolink mailNoteTree).children.filterMap Registry.standard.recognize? = [] ∧
    (autolink mailNoteTree).children.filterMap closedTag? = ["note"] := by
  have hparse : Markdown.parseEvents {} mailNote = .ok mailNoteTree := by decide +kernel
  obtain ⟨-, hopening, hclosing⟩ := autolink_markers .standard hparse
  have hopened : ((mailNoteTree.children.filter (!linksIn ·)).filterMap
      Registry.standard.recognize?).length = 0 := by decide +kernel
  exact ⟨hparse, hopening.trans (List.eq_nil_of_length_eq_zero hopened),
    hclosing.trans (by decide +kernel)⟩

/-- The note is opened without links and is not opened with them, and so it is a box in the one page
and three paragraphs in the other. -/
theorem mailNote_taken_apart :
    Markdown.parseEvents {} mailNote = .ok mailNoteTree ∧
      (mailNoteTree.children.map fun n => ((Registry.standard.recognize? n).isSome,
        (Registry.standard.recognize? (autolink n)).isSome)) =
          [(true, false), (false, false), (false, false)] ∧
      ((Pipeline.transform { options := { gfm := false } } mailNote).toOption.map
        (·.tree.children.map (·.elementTag))) = some [some "div"] ∧
      ((Pipeline.transform {} mailNote).toOption.map
        (·.tree.children.map (·.elementTag))) = some [none, none, none] := by
  decide +kernel

end Links

end WikiPage
