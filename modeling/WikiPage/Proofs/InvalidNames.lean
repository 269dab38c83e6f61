import WikiPage.Proofs.ByteOrder
import WikiPage.Proofs.Writing
/-!
# The names on which writing fails

Writing fails on names that markup cannot have, and on nothing else.  Not all of a tree is written: what
stands below code, text, images or void elements is not, and whatever stands in a row of a table is
written as a cell, so that an element there shows its children only.

* `Node.reached` lists the nodes that are written as what they are, in document order:
  `reachedAll_sublist`.
* `NodeKind.names` are the names that a node brings along, in the order in which they are written.
* `fault?_allParts`: the fault of writing is that of the first name of a reached node that is none.  By
  kinds of nodes this is `fault?_nodeParts`, and the rest is an induction along `reached`.

Main statement: `error_toMarkup`.
-/

namespace WikiPage

/-! ## 1. What the writer reaches -/

/-- The names of a node of this kind, each with whether it is an attribute's: the tag of a generated
element, and then the names of its attributes, of flags that are not set too. -/
def NodeKind.names : NodeKind → List (Bool × String)
  | element tag attributes => (false, tag) :: attributes.names.map fun name => (true, name)
  | _ => []

namespace Node

mutual
/-- The node, and those below it that are written as what they are. -/
def reached : Node → List Node
  | ⟨kind, children, span⟩ =>
    ⟨kind, children, span⟩ ::
      match kind with
      | .table _ => reachedSections children
      | kind => if kind.showsChildren then reachedAll children else []
/-- What is reached in a row of nodes. -/
def reachedAll : List Node → List Node
  | [] => []
  | n :: rest => reached n ++ reachedAll rest
/-- What is reached in a table: its head and rows have cells. -/
def reachedSections : List Node → List Node
  | [] => []
  | ⟨.tableHead, cells, span⟩ :: rest =>
    ⟨.tableHead, cells, span⟩ :: (reachedCells cells ++ reachedSections rest)
  | ⟨.tableRow, cells, span⟩ :: rest =>
    ⟨.tableRow, cells, span⟩ :: (reachedCells cells ++ reachedSections rest)
  | n :: rest => reached n ++ reachedSections rest
/-- What is reached in the head or a row of a table: a cell is a cell, whatever its kind. -/
def reachedCells : List Node → List Node
  | [] => []
  | ⟨_, children, _⟩ :: rest => reachedAll children ++ reachedCells rest
end

/-- What is reached below a node. -/
def reachedBelow (n : Node) : List Node :=
  match n.kind with
  | .table _ => reachedSections n.children
  | kind => if kind.showsChildren then reachedAll n.children else []

theorem reached_eq (n : Node) : n.reached = n :: n.reachedBelow := by
  obtain ⟨_, _, _⟩ := n
  rfl

theorem reachedSections_cons {n : Node} {rest : List Node} (hhead : n.kind ≠ .tableHead)
    (hrow : n.kind ≠ .tableRow) : reachedSections (n :: rest) = reached n ++ reachedSections rest := by
  obtain ⟨kind, children, span⟩ := n
  cases kind with
  | tableHead => exact absurd rfl hhead
  | tableRow => exact absurd rfl hrow
  | _ => rfl

mutual
theorem reached_sublist : ∀ n : Node, n.reached.Sublist n.preorder
  | ⟨kind, children, span⟩ => by
    rw [reached_eq, preorder, reachedBelow]
    refine List.Sublist.cons_cons _ ?_
    split
    · exact reachedSections_sublist children
    · split
      · exact reachedAll_sublist children
      · exact List.nil_sublist _
/-- **The reached nodes stand in document order**, each at most once. -/
theorem reachedAll_sublist : ∀ ns : List Node, (reachedAll ns).Sublist (preorderAll ns)
  | [] => List.Sublist.slnil
  | n :: rest => (reached_sublist n).append (reachedAll_sublist rest)
theorem reachedSections_sublist : ∀ ns : List Node, (reachedSections ns).Sublist (preorderAll ns)
  | [] => List.Sublist.slnil
  | ⟨kind, children, span⟩ :: rest => by
    have ih := reachedSections_sublist rest
    have hcells := ((reachedCells_sublist children).append ih).cons_cons ⟨kind, children, span⟩
    by_cases hrow : kind = .tableHead ∨ kind = .tableRow
    · obtain rfl | rfl := hrow <;> exact hcells
    · obtain ⟨hhead, hrow⟩ := not_or.1 hrow
      rw [reachedSections_cons hhead hrow]
      exact (reached_sublist _).append ih
theorem reachedCells_sublist : ∀ ns : List Node, (reachedCells ns).Sublist (preorderAll ns)
  | [] => List.Sublist.slnil
  | ⟨_, children, _⟩ :: rest =>
    ((reachedAll_sublist children).cons _).append (reachedCells_sublist rest)
end

end Node

/-! ## 2. Names and faults -/

namespace Markup

/-- The fault that a name makes, if it is none. -/
def nameFault? (name : Bool × String) : Option PassError :=
  if isName name.2 then none else some (.invalidName name.1 name.2)

/-- The fault of the first name of some nodes that is none. -/
def firstFault? (ns : List Node) : Option PassError :=
  (ns.flatMap (·.kind.names)).findSome? nameFault?

theorem nameFault?_eq_none_iff {name : Bool × String} :
    nameFault? name = none ↔ isName name.2 = true := by
  rw [nameFault?]
  cases isName name.2 <;> simp

theorem nameFault?_eq_some_iff {name : Bool × String} {fault : PassError} :
    nameFault? name = some fault ↔
      isName name.2 = false ∧ fault = .invalidName name.1 name.2 := by
  rw [nameFault?]
  cases isName name.2 <;> simp [eq_comm]

theorem firstFault?_cons (n : Node) (rest : List Node) :
    firstFault? (n :: rest) = (n.kind.names.findSome? nameFault?).or (firstFault? rest) := by
  rw [firstFault?, List.flatMap_cons, List.findSome?_append]
  rfl

theorem firstFault?_append (before after : List Node) :
    firstFault? (before ++ after) = (firstFault? before).or (firstFault? after) := by
  rw [firstFault?, List.flatMap_append, List.findSome?_append]
  rfl

theorem isNamed_iff {kind : NodeKind} :
    kind.isNamed = true ↔ ∀ name ∈ kind.names, isName name.2 = true := by
  cases kind with
  | element tag attributes =>
    rw [NodeKind.isNamed, Bool.and_eq_true, List.all_eq_true, NodeKind.names, List.forall_mem_cons,
      NameMap.names, List.forall_mem_map, List.forall_mem_map]
  | _ => exact ⟨fun _ _ h => absurd h List.not_mem_nil, fun _ => rfl⟩

/-- Only elements can have names that are none. -/
theorem isNamed_eq_false_iff {kind : NodeKind} :
    kind.isNamed = false ↔ ∃ tag attributes, kind = .element tag attributes ∧
      (isName tag = false ∨ ∃ name ∈ attributes.names, isName name = false) := by
  cases kind with
  | element tag attributes =>
    rw [NodeKind.isNamed, Bool.and_eq_false_iff, List.all_eq_false]
    constructor
    · rintro (htag | ⟨entry, hentry, hname⟩)
      · exact ⟨tag, attributes, rfl, .inl htag⟩
      · exact ⟨tag, attributes, rfl,
          .inr ⟨entry.1, List.mem_map_of_mem hentry, Bool.eq_false_iff.2 hname⟩⟩
    · rintro ⟨_, _, heq, htag | ⟨name, hmem, hname⟩⟩ <;> cases heq
      · exact .inl htag
      · obtain ⟨entry, hentry, rfl⟩ := List.mem_map.1 hmem
        exact .inr ⟨entry, hentry, ne_true_of_eq_false hname⟩
  | _ =>
    constructor
    · intro h
      cases h
    · rintro ⟨_, _, h, _⟩
      cases h

theorem firstFault?_eq_some_iff {ns : List Node} {fault : PassError} :
    firstFault? ns = some fault ↔
      ∃ before ofAttribute name after,
        ns.flatMap (·.kind.names) = before ++ (ofAttribute, name) :: after ∧
          (∀ x ∈ before, isName x.2 = true) ∧ isName name = false ∧
          fault = .invalidName ofAttribute name := by
  rw [firstFault?, List.findSome?_eq_some_iff]
  constructor
  · rintro ⟨before, ⟨ofAttribute, name⟩, after, hsplit, hname, hbefore⟩
    have hfault := nameFault?_eq_some_iff.1 hname
    exact ⟨before, ofAttribute, name, after, hsplit,
      fun x hx => nameFault?_eq_none_iff.1 (hbefore x hx), hfault.1, hfault.2⟩
  · rintro ⟨before, ofAttribute, name, after, hsplit, hbefore, hname, hfault⟩
    exact ⟨before, (ofAttribute, name), after, hsplit, nameFault?_eq_some_iff.2 ⟨hname, hfault⟩,
      fun x hx => nameFault?_eq_none_iff.2 (hbefore x hx)⟩

theorem firstFault?_eq_none_iff {ns : List Node} :
    firstFault? ns = none ↔ ∀ n ∈ ns, n.kind.isNamed = true := by
  simp only [firstFault?, List.findSome?_eq_none_iff, List.forall_mem_flatMap, nameFault?_eq_none_iff,
    isNamed_iff]

/-- The fault of something that may fail. -/
def fault? {α : Type} : Except PassError α → Option PassError
  | .error fault => some fault
  | .ok _ => none

theorem fault?_eq_some_iff {α : Type} {w : Except PassError α} {fault : PassError} :
    fault? w = some fault ↔ w = .error fault := by
  cases w <;> simp [fault?]

theorem fault?_map {α β : Type} (f : α → β) (w : Except PassError α) :
    fault? (w.map f) = fault? w := by
  cases w <;> rfl

theorem fault?_between (before after : List Part) (inner : Written) :
    fault? (between before inner after) = fault? inner := by
  rcases inner with fault | ⟨parts, labels⟩ <;> rfl

/-- One thing after another fails as the first does, or else as the second: it fails in the same way
whatever labels were met. -/
theorem fault?_andThen {first : Written} {next : List String → Written} {later : Option PassError}
    (h : ∀ labels, fault? (next labels) = later) :
    fault? (andThen first next) = (fault? first).or later := by
  rcases first with fault | ⟨parts, labels⟩
  · rfl
  · rw [← h labels, andThen]
    rcases next labels with fault | ⟨more, labels⟩ <;> rfl

/-! ## 3. One node -/

theorem fault?_elementAttributes (entries : List (String × AttrValue)) :
    fault? (elementAttributes entries) =
      (entries.map fun entry => (true, entry.1)).findSome? nameFault? := by
  induction entries with
  | nil => rfl
  | cons entry rest ih =>
    obtain ⟨name, value⟩ := entry
    rw [List.map_cons, List.findSome?_cons, ← ih, elementAttributes, nameFault?]
    cases isName name with
    | false => rfl
    | true => cases elementAttributes rest <;> rfl

/-- An element fails by its tag first, then by its attributes, and then by what is written in it. -/
theorem fault?_generated (tag : String) (attributes : Attributes) (labels : List String)
    (inner : Written) :
    fault? (generated tag attributes labels inner) =
      ((NodeKind.element tag attributes).names.findSome? nameFault?).or
        (if voidElements.contains tag then none else fault? inner) := by
  have hattributes := fault?_elementAttributes attributes.entries
  rw [NodeKind.names, NameMap.names, List.map_map, List.findSome?_cons, generated, nameFault?]
  cases isName tag with
  | false => rfl
  | true =>
    rw [show (fun name => (true, name)) ∘ Prod.fst =
      fun entry : String × AttrValue => (true, entry.1) from rfl, ← hattributes]
    cases elementAttributes attributes.entries with
    | error fault => rfl
    | ok shown =>
      cases voidElements.contains tag with
      | true => rfl
      | false => exact fault?_between _ _ _

/-- **A node fails by its names, or else by what it holds.** -/
theorem fault?_nodeParts_eq (labels : List String) (n : Node) :
    fault? (nodeParts labels n) =
      (n.kind.names.findSome? nameFault?).or (fault? (held labels n)) := by
  obtain ⟨kind, children, span⟩ := n
  cases kind with
  | element tag attributes =>
    rw [nodeParts, fault?_generated, held]
    cases hvoid : voidElements.contains tag <;> simp only [NodeKind.showsChildren, hvoid] <;> rfl
  | _ =>
    rw [nodeParts_eq labels rfl, fault?_between]
    rfl

/-- What a node holds fails as its children do, or, in a table, its sections. -/
theorem fault?_held {labels : List String} {n : Node}
    (hall : ∀ labels, fault? (allParts labels n.children) = firstFault? (Node.reachedAll n.children))
    (hsections : ∀ alignments labels, fault? (sectionParts alignments false labels n.children) =
      firstFault? (Node.reachedSections n.children)) :
    fault? (held labels n) = firstFault? n.reachedBelow := by
  unfold held Node.reachedBelow
  cases n.kind with
  | table alignments => exact hsections alignments labels
  | _ =>
    -- both sides ask whether the children are shown
    dsimp only
    split
    · exact hall _
    · rfl

/-! ## 4. Whole trees -/

mutual
/-- **Writing fails on the first name that is none**, whatever footnotes were met before. -/
theorem fault?_nodeParts : ∀ (n : Node) (labels : List String),
    fault? (nodeParts labels n) = firstFault? n.reached
  | ⟨kind, children, span⟩, labels => by
    rw [fault?_nodeParts_eq, Node.reached_eq, firstFault?_cons, fault?_held
      (fault?_allParts children) fun alignments => fault?_sectionParts children alignments false]
theorem fault?_allParts : ∀ (ns : List Node) (labels : List String),
    fault? (allParts labels ns) = firstFault? (Node.reachedAll ns)
  | [], _ => rfl
  | n :: rest, labels => by
    rw [allParts, fault?_andThen (fault?_allParts rest), fault?_nodeParts n, Node.reachedAll,
      firstFault?_append]
theorem fault?_sectionParts : ∀ (ns : List Node) (alignments : List Alignment) (inBody : Bool)
    (labels : List String),
    fault? (sectionParts alignments inBody labels ns) = firstFault? (Node.reachedSections ns)
  | [], _, _, _ => rfl
  | ⟨kind, children, span⟩ :: rest, alignments, inBody, labels => by
    have ih (inBody : Bool) := fault?_sectionParts rest alignments inBody
    have hcells (before after : List Part) (tag : String) :
        fault? (between before (cellParts tag alignments labels children) after) =
          firstFault? (Node.reachedCells children) :=
      (fault?_between _ _ _).trans (fault?_cellParts children tag alignments labels)
    by_cases hrow : kind = .tableHead ∨ kind = .tableRow
    · obtain rfl | rfl := hrow <;>
        rw [sectionParts, fault?_andThen (ih _), hcells, Node.reachedSections, firstFault?_cons,
          firstFault?_append] <;>
        rfl
    · obtain ⟨hhead, hrow⟩ := not_or.1 hrow
      rw [sectionParts_cons hhead hrow, fault?_andThen (ih _),
        fault?_nodeParts ⟨kind, children, span⟩, Node.reachedSections_cons hhead hrow,
        firstFault?_append]
theorem fault?_cellParts : ∀ (ns : List Node) (tag : String) (alignments : List Alignment)
    (labels : List String),
    fault? (cellParts tag alignments labels ns) = firstFault? (Node.reachedCells ns)
  | [], _, _, _ => rfl
  | ⟨_, children, _⟩ :: rest, tag, alignments, labels => by
    rw [cellParts, fault?_andThen (fault?_cellParts rest tag _), inside, fault?_between,
      fault?_allParts children, Node.reachedCells, firstFault?_append]
end

/-- Nodes are written unless they fail. -/
theorem exists_ok_allParts {ns : List Node} (h : ∀ n ∈ Node.reachedAll ns, n.kind.isNamed = true)
    (labels : List String) : ∃ written, allParts labels ns = .ok written := by
  have hfault := (fault?_allParts ns labels).trans (firstFault?_eq_none_iff.2 h)
  cases hwritten : allParts labels ns with
  | error fault =>
    rw [hwritten] at hfault
    cases hfault
  | ok written => exact ⟨written, rfl⟩

end Markup

open Markup Node in
/-- **Writing fails on a bad name, and only on one.**  A tree is not written exactly when the writer
reaches an element with a tag, or with an attribute, whose name is none; the fault is that of the first
such name, where the names of the reached nodes stand in document order, for each node its tag before
those of its attributes, and these in the order of their bytes. -/
theorem error_toMarkup (tree : Node) :
    ((∃ fault, tree.toMarkup = .error fault) ↔
      ∃ n ∈ reachedAll tree.children, ∃ tag attributes, n.kind = .element tag attributes ∧
        (isName tag = false ∨ ∃ name ∈ attributes.names, isName name = false)) ∧
    (∀ fault, tree.toMarkup = .error fault ↔
      ∃ before ofAttribute name after,
        (reachedAll tree.children).flatMap (·.kind.names) = before ++ (ofAttribute, name) :: after ∧
          (∀ x ∈ before, isName x.2 = true) ∧ isName name = false ∧
          fault = .invalidName ofAttribute name) ∧
    (reachedAll tree.children).Sublist (preorderAll tree.children) ∧
    ∀ attributes : Attributes, (attributes.names.map utf8Bytes).Pairwise (· < ·) := by
  have hfault : fault? tree.toMarkup = firstFault? (reachedAll tree.children) := by
    rw [Node.toMarkup, Node.parts, fault?_map, fault?_map, fault?_allParts]
  refine ⟨?_, fun fault => ?_, reachedAll_sublist _, NameMap.pairwise_utf8Bytes_names⟩
  · simp only [← fault?_eq_some_iff, hfault]
    rw [← Option.ne_none_iff_exists', Ne, firstFault?_eq_none_iff]
    simp only [not_forall, exists_prop, Bool.not_eq_true, isNamed_eq_false_iff]
  · rw [← fault?_eq_some_iff, hfault, firstFault?_eq_some_iff]

/-- An element in a row of a table is a cell: its tag is not written, and it need not be a name. -/
example :
    let row : Node := ⟨.tableRow, [⟨.element "2" .empty, [.text "two"], none⟩], none⟩
    Node.toMarkup ⟨.root, [⟨.table [], [row], none⟩], none⟩ =
      .ok "<table><tbody><tr><td>two</td></tr></tbody></table>" := by
  decide

end WikiPage
