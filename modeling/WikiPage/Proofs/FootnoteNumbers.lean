import Mathlib.Data.Finset.Card
import Mathlib.Data.List.TakeWhile
import WikiPage.Proofs.InvalidNames
import WikiPage.Proofs.Pipeline
/-!
# The numbers of footnotes

Writing numbers a footnote by the labels that it has met, and meets more of them as it goes on.  The
numbers that come out do not depend on how far it is: they are the places of the labels in the order in
which they are written first, and a label has one number wherever it stands.

* `numbered` is the markup of a tree in which every label has a number from the start, so that nothing is
  carried along.
* `Numbered` says that a part of a tree is written so, with the numbers that later labels leave alone:
  `Numbered.append` is the step, and the rest is an induction along the writing (`numbered_allParts`).
* `place_noteAll` counts: the place of a label is the number of different labels before it.

Main statement: `footnotes_of_markup`.
-/

namespace WikiPage.Markup

open Node

/-! ## 1. Markup with given numbers -/

/-- What is written of a node before that which it holds, when every label has a number. -/
def openingWith (number : String → Nat) (n : Node) : List Part :=
  match n.kind with
  | .footnoteReference label =>
    [.start "sup" [("class", some "footnote-reference")]] ++
      textIn "a" [("href", some ("#fn-" ++ label))] (toString (number label))
  | .footnoteDefinition label =>
    [.start "div" [("class", some "footnote-definition"), ("id", some ("fn-" ++ label))]] ++
      textIn "sup" [("class", some "footnote-definition-label")] (toString (number label))
  | _ => opening [] n

mutual
/-- The markup of a node, when every label has a number. -/
def numbered (number : String → Nat) : Node → List Part
  | ⟨kind, children, span⟩ =>
    openingWith number ⟨kind, children, span⟩ ++
      (match kind with
        | .table alignments => numberedSections number alignments false children
        | kind => if kind.showsChildren then numberedAll number children else []) ++
      closing kind
/-- The markup of nodes in a row. -/
def numberedAll (number : String → Nat) : List Node → List Part
  | [] => []
  | n :: rest => numbered number n ++ numberedAll number rest
/-- The markup of what a table holds. -/
def numberedSections (number : String → Nat) (alignments : List Alignment) (inBody : Bool) :
    List Node → List Part
  | [] => if inBody then [.stop "tbody"] else []
  | ⟨.tableHead, cells, _⟩ :: rest =>
    [.start "thead" [], .start "tr" []] ++ numberedCells number "th" alignments cells ++
      [.stop "tr", .stop "thead"] ++ numberedSections number alignments inBody rest
  | ⟨.tableRow, cells, _⟩ :: rest =>
    (if inBody then [] else [.start "tbody" []]) ++ [.start "tr" []] ++
      numberedCells number "td" alignments cells ++ [.stop "tr"] ++
      numberedSections number alignments true rest
  | n :: rest => numbered number n ++ numberedSections number alignments inBody rest
/-- The markup of the cells of a row. -/
def numberedCells (number : String → Nat) (tag : String) (alignments : List Alignment) :
    List Node → List Part
  | [] => []
  | ⟨_, children, _⟩ :: rest =>
    [.start tag (alignAttribute alignments.head?)] ++ numberedAll number children ++ [.stop tag] ++
      numberedCells number tag alignments.tail rest
end

/-- What a node holds, when every label has a number. -/
def numberedHeld (number : String → Nat) (n : Node) : List Part :=
  match n.kind with
  | .table alignments => numberedSections number alignments false n.children
  | kind => if kind.showsChildren then numberedAll number n.children else []

theorem numbered_eq (number : String → Nat) (n : Node) :
    numbered number n = openingWith number n ++ numberedHeld number n ++ closing n.kind := by
  obtain ⟨_, _, _⟩ := n
  rfl

theorem numberedSections_cons {number : String → Nat} {alignments : List Alignment} {inBody : Bool}
    {n : Node} {rest : List Node} (hhead : n.kind ≠ .tableHead) (hrow : n.kind ≠ .tableRow) :
    numberedSections number alignments inBody (n :: rest) =
      numbered number n ++ numberedSections number alignments inBody rest := by
  obtain ⟨kind, children, span⟩ := n
  cases kind with
  | tableHead => exact absurd rfl hhead
  | tableRow => exact absurd rfl hrow
  | _ => rfl

/-! ## 2. The labels of a tree, and their numbers -/

/-- The labels of some nodes, in order. -/
def labelsOf (ns : List Node) : List String := ns.filterMap (·.kind.footnoteLabel?)

/-- The labels that a tree is written with, in the order in which they are written. -/
def footnoteLabels (tree : Node) : List String := labelsOf (reachedAll tree.children)

/-- The number of a label among labels in a row: one more than there are different ones before it. -/
def numberIn (labels : List String) (label : String) : Nat :=
  (labels.takeWhile (· != label)).toFinset.card + 1

/-- The labels met, when one more is written. -/
def note (met : List String) (label : String) : List String := (footnoteNumber met label).2

/-- The labels met, when more of them are written. -/
def noteAll (met labels : List String) : List String := labels.foldl note met

/-- The number of a label by its place among those met. -/
def place (met : List String) (label : String) : Nat := met.idxOf label + 1

theorem labelsOf_append (ms ns : List Node) : labelsOf (ms ++ ns) = labelsOf ms ++ labelsOf ns :=
  List.filterMap_append

theorem labelsOf_cons (n : Node) (rest : List Node) :
    labelsOf (n :: rest) = n.kind.footnoteLabel?.toList ++ labelsOf rest := by
  rw [labelsOf, List.filterMap_cons]
  cases n.kind.footnoteLabel? <;> rfl

theorem footnoteNumber_eq (met : List String) (label : String) :
    footnoteNumber met label = (place met label, if label ∈ met then met else met ++ [label]) := by
  rw [footnoteNumber, place]
  split
  · rename_i index hindex
    have hmem : label ∈ met := by
      refine Decidable.byContradiction fun hnot => ?_
      rw [List.idxOf?_eq_none_iff.2 hnot] at hindex
      cases hindex
    rw [if_pos hmem, List.idxOf_eq_getD_idxOf?, hindex]
    rfl
  · rename_i hnone
    have hnot := List.idxOf?_eq_none_iff.1 hnone
    rw [if_neg hnot, List.idxOf_eq_length hnot]

theorem note_of_mem {met : List String} {label : String} (h : label ∈ met) : note met label = met := by
  rw [note, footnoteNumber_eq, if_pos h]

theorem note_of_notMem {met : List String} {label : String} (h : label ∉ met) :
    note met label = met ++ [label] := by
  rw [note, footnoteNumber_eq, if_neg h]

theorem mem_note (met : List String) (label : String) : label ∈ note met label := by
  by_cases h : label ∈ met
  · rwa [note_of_mem h]
  · rw [note_of_notMem h]
    exact List.mem_append_right _ List.mem_cons_self

theorem prefix_note (met : List String) (label : String) : met <+: note met label := by
  by_cases h : label ∈ met
  · rw [note_of_mem h]
  · rw [note_of_notMem h]
    exact List.prefix_append _ _

theorem prefix_noteAll (met labels : List String) : met <+: noteAll met labels := by
  induction labels generalizing met with
  | nil => exact List.prefix_refl _
  | cons label rest ih => exact (prefix_note met label).trans (ih _)

/-- **Labels that come later leave a number alone.** -/
theorem place_earlier {met later : List String} (h : met <+: later) {label : String}
    (hmem : label ∈ met) : place later label = place met label := by
  obtain ⟨rest, rfl⟩ := h
  rw [place, place, List.idxOf_append_of_mem hmem]

/-- What is written before that which a node holds shows the number that the label has in the end. -/
theorem opening_eq {met later : List String} {n : Node}
    (h : labelsWithin met n.kind <+: later) : opening met n = openingWith (place later) n := by
  obtain ⟨kind, children, span⟩ := n
  have hplace (label : String) (h : note met label <+: later) :
      (footnoteNumber met label).1 = place later label := by
    rw [place_earlier h (mem_note met label), footnoteNumber_eq]
    by_cases hmem : label ∈ met
    · rw [note_of_mem hmem]
    · rw [note_of_notMem hmem, place, place, List.idxOf_append_of_notMem hmem,
        List.idxOf_eq_length hmem, List.idxOf_cons_self]
  cases kind with
  | footnoteReference label =>
    simp only [opening, openingWith, hplace label h]
  | footnoteDefinition label =>
    simp only [opening, openingWith, hplace label h]
  | blockQuote alert => cases alert <;> rfl
  | list start => cases start <;> rfl
  | _ => rfl

theorem labelsWithin_eq (met : List String) (kind : NodeKind) :
    labelsWithin met kind = noteAll met kind.footnoteLabel?.toList := by
  unfold labelsWithin
  cases kind.footnoteLabel? <;> rfl

/-! ## 3. One writing -/

/-- Whether a part of a tree, with these labels in it, is written as `shown` shows it with the numbers
that labels have in the end, when the labels in `met` were met before and those in `met'` are met by
then. -/
structure Numbered (met labels : List String) (parts : List Part) (met' : List String)
    (shown : (String → Nat) → List Part) : Prop where
  met_eq : met' = noteAll met labels
  parts_eq : ∀ later, met' <+: later → parts = shown (place later)

/-- Parts that show no numbers. -/
theorem numbered_plain (met : List String) (parts : List Part) :
    Numbered met [] parts met fun _ => parts :=
  ⟨rfl, fun _ _ => rfl⟩

section Writing

variable {met met' met'' labels labels' : List String} {parts parts' : List Part}
  {shown shown' : (String → Nat) → List Part}

theorem Numbered.prefix_met (h : Numbered met labels parts met' shown) : met <+: met' := by
  rw [h.met_eq]
  exact prefix_noteAll met labels

/-- **One thing after another**: the labels of the first one are met when the second is written. -/
theorem Numbered.append (h : Numbered met labels parts met' shown)
    (h' : Numbered met' labels' parts' met'' shown') :
    Numbered met (labels ++ labels') (parts ++ parts') met''
      fun number => shown number ++ shown' number := by
  refine ⟨?_, fun later hlater => ?_⟩
  · rw [h'.met_eq, h.met_eq, noteAll, noteAll, noteAll, List.foldl_append]
  · rw [h.parts_eq later (h'.prefix_met.trans hlater), h'.parts_eq later hlater]

/-- Something between parts that show no numbers. -/
theorem Numbered.between (h : Numbered met labels parts met' shown) (before after : List Part) :
    Numbered met labels (before ++ parts ++ after) met'
      fun number => before ++ shown number ++ after :=
  ⟨h.met_eq, fun later hlater => by rw [h.parts_eq later hlater]⟩

/-- A node, when what it holds is written so: its own label is met first. -/
theorem Numbered.node {n : Node}
    (h : Numbered (labelsWithin met n.kind) labels parts met' (numberedHeld · n)) :
    Numbered met (n.kind.footnoteLabel?.toList ++ labels)
      (opening met n ++ parts ++ closing n.kind) met' (numbered · n) := by
  refine ⟨?_, fun later hlater => ?_⟩
  · rw [h.met_eq, labelsWithin_eq, noteAll, noteAll, noteAll, List.foldl_append]
  · rw [numbered_eq, opening_eq (h.prefix_met.trans hlater), h.parts_eq later hlater]

/-- What a node holds is written as its children are, or, in a table, its sections. -/
theorem numbered_held {n : Node} (h : held met n = .ok (parts, met'))
    (hall : ∀ met, allParts met n.children = .ok (parts, met') →
      Numbered met (labelsOf (reachedAll n.children)) parts met' (numberedAll · n.children))
    (hsections : ∀ alignments, sectionParts alignments false met n.children = .ok (parts, met') →
      Numbered met (labelsOf (reachedSections n.children)) parts met'
        (numberedSections · alignments false n.children)) :
    Numbered (labelsWithin met n.kind) (labelsOf n.reachedBelow) parts met' (numberedHeld · n) := by
  obtain ⟨kind, children, span⟩ := n
  cases kind with
  | table alignments => exact hsections alignments h
  | _ =>
    unfold held at h
    unfold reachedBelow numberedHeld
    dsimp only at h ⊢
    split at h <;> rename_i hshows
    · simp only [if_pos hshows]
      exact hall _ h
    · simp only [if_neg hshows]
      cases h
      exact numbered_plain _ _

end Writing

/-! ## 4. The writing of a tree -/

mutual
/-- **A tree is written with the numbers that its labels have in the end.** -/
theorem numbered_nodeParts : ∀ (n : Node) {met met' : List String} {parts : List Part},
    nodeParts met n = .ok (parts, met') →
    Numbered met (labelsOf n.reached) parts met' (numbered · n)
  | ⟨kind, children, span⟩, _, _, _, h => by
    obtain ⟨-, within, hheld, rfl⟩ := ok_of_nodeParts h
    rw [reached_eq, labelsOf_cons]
    exact .node (numbered_held hheld (fun _ h => numbered_allParts children h)
      fun _ h => numbered_sectionParts children h)
theorem numbered_allParts : ∀ (ns : List Node) {met met' : List String} {parts : List Part},
    allParts met ns = .ok (parts, met') →
    Numbered met (labelsOf (reachedAll ns)) parts met' (numberedAll · ns)
  | [], _, _, _, h => by
    cases h
    exact numbered_plain _ _
  | n :: rest, _, _, _, h => by
    obtain ⟨before, met, after, hbefore, hafter, rfl⟩ := ok_of_andThen h
    rw [reachedAll, labelsOf_append]
    exact (numbered_nodeParts n hbefore).append (numbered_allParts rest hafter)
theorem numbered_sectionParts : ∀ (ns : List Node) {alignments : List Alignment} {inBody : Bool}
    {met met' : List String} {parts : List Part},
    sectionParts alignments inBody met ns = .ok (parts, met') →
    Numbered met (labelsOf (reachedSections ns)) parts met' (numberedSections · alignments inBody ns)
  | [], _, _, _, _, _, h => by
    cases h
    exact numbered_plain _ _
  | ⟨kind, children, span⟩ :: rest, _, _, _, _, _, h => by
    by_cases hsection : kind = .tableHead ∨ kind = .tableRow
    · rcases hsection with rfl | rfl
      all_goals
        obtain ⟨before, met, after, hbefore, hafter, rfl⟩ := ok_of_andThen h
        obtain ⟨within, hwithin, rfl⟩ := ok_of_between hbefore
        rw [reachedSections, labelsOf_cons, labelsOf_append]
        exact ((numbered_cellParts children hwithin).between _ _).append
          (numbered_sectionParts rest hafter)
    · obtain ⟨hhead, hrow⟩ := not_or.1 hsection
      rw [sectionParts_cons hhead hrow] at h
      obtain ⟨before, met, after, hbefore, hafter, rfl⟩ := ok_of_andThen h
      simp only [numberedSections_cons (n := ⟨kind, children, span⟩) hhead hrow]
      rw [reachedSections_cons hhead hrow, labelsOf_append]
      exact (numbered_nodeParts _ hbefore).append (numbered_sectionParts rest hafter)
theorem numbered_cellParts : ∀ (ns : List Node) {tag : String} {alignments : List Alignment}
    {met met' : List String} {parts : List Part},
    cellParts tag alignments met ns = .ok (parts, met') →
    Numbered met (labelsOf (reachedCells ns)) parts met' (numberedCells · tag alignments ns)
  | [], _, _, _, _, _, h => by
    cases h
    exact numbered_plain _ _
  | ⟨_, children, _⟩ :: rest, _, _, _, _, _, h => by
    obtain ⟨before, met, after, hbefore, hafter, rfl⟩ := ok_of_andThen h
    obtain ⟨within, hwithin, rfl⟩ := ok_of_between hbefore
    rw [reachedCells, labelsOf_append]
    exact ((numbered_allParts children hwithin).between _ _).append (numbered_cellParts rest hafter)
end

/-! ## 5. Counting -/

theorem nodup_noteAll {met : List String} (h : met.Nodup) (labels : List String) :
    (noteAll met labels).Nodup := by
  induction labels generalizing met with
  | nil => exact h
  | cons label rest ih =>
    refine ih ?_
    by_cases hmem : label ∈ met
    · rwa [note_of_mem hmem]
    · rw [note_of_notMem hmem, List.nodup_append_comm]
      exact List.nodup_cons.2 ⟨hmem, h⟩

theorem mem_noteAll {met labels : List String} {label : String} :
    label ∈ noteAll met labels ↔ label ∈ met ∨ label ∈ labels := by
  induction labels generalizing met with
  | nil => simp [noteAll]
  | cons first rest ih =>
    have hnote : label ∈ note met first ↔ label ∈ met ∨ label = first := by
      by_cases hmem : first ∈ met
      · rw [note_of_mem hmem, or_iff_left_of_imp fun heq => heq ▸ hmem]
      · rw [note_of_notMem hmem, List.mem_append, List.mem_singleton]
    rw [noteAll, List.foldl_cons, ← noteAll, ih, hnote, List.mem_cons, or_assoc]

/-- As many labels are met as there are different ones. -/
theorem length_noteAll (labels : List String) :
    (noteAll [] labels).length = labels.toFinset.card := by
  rw [← List.toFinset_card_of_nodup (nodup_noteAll List.nodup_nil labels)]
  congr 1
  ext label
  rw [List.mem_toFinset, List.mem_toFinset, mem_noteAll, or_iff_right List.not_mem_nil]

theorem numberIn_append {before : List String} {label : String} (h : label ∉ before)
    (after : List String) : numberIn (before ++ label :: after) label = before.toFinset.card + 1 := by
  have hbefore : ∀ other ∈ before, (other != label) = true := fun other hother =>
    bne_iff_ne.2 fun heq => h (heq ▸ hother)
  rw [numberIn, List.takeWhile_append_of_pos hbefore, List.takeWhile_cons_of_neg (by simp),
    List.append_nil]

/-- **The place of a label is its number**: what stands before it are the different labels that were
written before its first. -/
theorem place_noteAll (labels : List String) (label : String) :
    place (noteAll [] labels) label = numberIn labels label := by
  by_cases hmem : label ∈ labels
  · obtain ⟨before, after, rfl, hnot⟩ := List.eq_append_cons_of_mem hmem
    have hnot' : label ∉ noteAll [] before := fun h =>
      hnot ((mem_noteAll.1 h).resolve_left List.not_mem_nil)
    have hmet : noteAll [] before ++ [label] <+: noteAll [] (before ++ label :: after) := by
      rw [noteAll, noteAll, List.foldl_append, List.foldl_cons, ← noteAll, note_of_notMem hnot']
      exact prefix_noteAll _ _
    rw [place_earlier hmet (List.mem_append_right _ List.mem_cons_self), place,
      List.idxOf_append_of_notMem hnot', List.idxOf_cons_self, numberIn_append hnot, length_noteAll]
  · have hnot : label ∉ noteAll [] labels := fun h =>
      hmem ((mem_noteAll.1 h).resolve_left List.not_mem_nil)
    have hall : ∀ other ∈ labels, (other != label) = true := fun other hother =>
      bne_iff_ne.2 fun heq => hmem (heq ▸ hother)
    rw [place, List.idxOf_eq_length hnot, length_noteAll, numberIn, List.takeWhile_eq_self_iff.2 hall]

theorem numberIn_inj {labels : List String} {a b : String} (ha : a ∈ labels) :
    numberIn labels a = numberIn labels b ↔ a = b := by
  rw [← place_noteAll, ← place_noteAll, place, place, Nat.add_right_cancel_iff,
    List.idxOf_inj (mem_noteAll.2 (.inr ha))]

/-- The numbers of labels go from one up to how many different ones there are. -/
theorem exists_numberIn_iff {labels : List String} {number : Nat} :
    (∃ label ∈ labels, numberIn labels label = number) ↔
      1 ≤ number ∧ number ≤ labels.toFinset.card := by
  simp only [← place_noteAll, ← length_noteAll, place]
  constructor
  · rintro ⟨label, hlabel, rfl⟩
    have := List.idxOf_lt_length_of_mem (mem_noteAll.2 (.inr hlabel) : label ∈ noteAll [] labels)
    omega
  · rintro ⟨hpos, hle⟩
    have hlt : number - 1 < (noteAll [] labels).length := by omega
    refine ⟨(noteAll [] labels)[number - 1],
      (mem_noteAll.1 (List.getElem_mem hlt)).resolve_left List.not_mem_nil, ?_⟩
    rw [(nodup_noteAll List.nodup_nil labels).idxOf_getElem _ hlt]
    omega

/-! ## 6. The footnotes of markup -/

/-- **A label has one number wherever it stands**: the markup of a tree is that in which every footnote
and every reference shows one more than there are different labels before the first of its own, in the
order in which they are written.  So equal labels have equal numbers, different ones have different
numbers, and these go from one up to how many different labels are written. -/
theorem footnotes_of_markup {tree : Node} {markup : String} (h : tree.toMarkup = .ok markup) :
    let labels := footnoteLabels tree
    markup = Part.writeAll (numberedAll (numberIn labels) tree.children) ∧
      (∀ before label after, labels = before ++ label :: after → label ∉ before →
        numberIn labels label = before.toFinset.card + 1) ∧
      (∀ a ∈ labels, ∀ b ∈ labels, numberIn labels a = numberIn labels b ↔ a = b) ∧
      ∀ number, (∃ label ∈ labels, numberIn labels label = number) ↔
        1 ≤ number ∧ number ≤ labels.toFinset.card := by
  obtain ⟨parts, hparts, rfl⟩ := ok_of_map h
  obtain ⟨⟨written, met⟩, hwritten, rfl⟩ := ok_of_map hparts
  have hnumbered := numbered_allParts tree.children hwritten
  have hplace : place met = numberIn (footnoteLabels tree) := by
    funext label
    rw [hnumbered.met_eq, ← footnoteLabels, place_noteAll]
  refine ⟨?_, fun before label after hsplit hnot => ?_, fun a ha b _ => numberIn_inj ha,
    fun _ => exists_numberIn_iff⟩
  · rw [hnumbered.parts_eq met (List.prefix_refl _), hplace]
  · rw [hsplit, numberIn_append hnot]

/-- A page with footnotes in one another and in a table, and with one in the text of an image. -/
def notedPage : Node :=
  let reference (label : String) : Node := ⟨.footnoteReference label, [], none⟩
  let definition (label : String) (children : List Node) : Node :=
    ⟨.footnoteDefinition label, children, none⟩
  ⟨.root,
    [⟨.image "a.png" "", [reference "hidden"], none⟩,
      definition "outer" [reference "inner", definition "inner" [reference "outer"]],
      ⟨.table [], [⟨.tableRow, [reference "cell", ⟨.tableCell, [reference "last"], none⟩], none⟩],
        none⟩,
      reference "inner"],
    none⟩

theorem toMarkup_notedPage :
    notedPage.toMarkup.toOption.map (fun _ => ()) = some () ∧
      footnoteLabels notedPage = ["outer", "inner", "inner", "outer", "last", "inner"] := by
  decide +kernel

/-- The label in an image and the one that is a cell itself are not written; the others have the numbers
one to three, a footnote before what it holds. -/
theorem footnotes_of_markup_notedPage :
    ∃ markup, notedPage.toMarkup = .ok markup ∧
      markup = Part.writeAll (numberedAll (numberIn (footnoteLabels notedPage)) notedPage.children) ∧
      ["outer", "inner", "last"].map (numberIn (footnoteLabels notedPage)) = [1, 2, 3] := by
  obtain ⟨markup, hmarkup, -⟩ := of_toOption_map toMarkup_notedPage.1
  obtain ⟨hwritten, -, -, -⟩ := footnotes_of_markup hmarkup
  refine ⟨markup, hmarkup, hwritten, ?_⟩
  rw [toMarkup_notedPage.2]
  decide

end WikiPage.Markup
