import WikiPage.Html.Tree
/-!
# Growing trees

While a hypertext is read, its tree changes in many places: an element that is closed too early is
opened again elsewhere, and what does not belong in a table is moved out of it.  A `Dom` holds the nodes by
their numbers, each with its parent and its children.
-/

namespace WikiPage.Html

/-- The number of a node. -/
abbrev NodeId := Nat

/-- What a node is. -/
inductive DomContent where
  | text (value : String)
  | element (space : Space) (name : String) (attributes : List Attribute)
  deriving Repr, Inhabited

/-- A node with its place in the tree. -/
structure DomNode where
  content : DomContent
  parent : Option NodeId := none
  children : Array NodeId := #[]
  deriving Repr, Inhabited

/-- Nodes by their numbers. -/
structure Dom where
  nodes : Array DomNode := #[]
  deriving Repr, Inhabited

namespace Dom

/-- Adds a node that stands nowhere yet. -/
def create (d : Dom) (content : DomContent) : NodeId × Dom :=
  (d.nodes.size, ⟨d.nodes.push { content }⟩)

/-- Changes a node. -/
def update (d : Dom) (id : NodeId) (f : DomNode → DomNode) : Dom := ⟨d.nodes.modify id f⟩

/-- The parent of a node. -/
def parent? (d : Dom) (id : NodeId) : Option NodeId := (d.nodes[id]?).bind DomNode.parent

/-- The children of a node. -/
def children (d : Dom) (id : NodeId) : Array NodeId := (d.nodes[id]?).elim #[] DomNode.children

/-- Takes a node out of the tree. -/
def detach (d : Dom) (id : NodeId) : Dom :=
  match d.parent? id with
  | none => d
  | some parent =>
    (d.update parent fun n => { n with children := n.children.filter (· != id) }).update id
      fun n => { n with parent := none }

/-- Puts a node behind the children of another. -/
def append (d : Dom) (parent child : NodeId) : Dom :=
  ((d.detach child).update parent fun n => { n with children := n.children.push child }).update child
    fun n => { n with parent := some parent }

/-- Puts a node in front of another one that stands in the tree. -/
def insertBefore (d : Dom) (sibling child : NodeId) : Dom :=
  let d := d.detach child
  match d.parent? sibling with
  | none => d
  | some parent =>
    (d.update parent fun n =>
      { n with children := n.children.flatMap fun id =>
          if id = sibling then #[child, id] else #[id] }).update child
      fun n => { n with parent := some parent }

/-- Moves the children of a node behind those of another. -/
def moveChildren (d : Dom) (source target : NodeId) : Dom :=
  (d.children source).foldl (fun d child => d.append target child) d

/-- The tree below a node, of at most the given number of levels.  What stands in a template is no part of
the tree. -/
def treeOf (d : Dom) : Nat → NodeId → Option Tree
  | 0, _ => none
  | levels + 1, id =>
    (d.nodes[id]?).map fun n =>
      match n.content with
      | .text value => .text value
      | .element space name attributes =>
        .element space name attributes <|
          if space = .html && name == "template" then []
          else n.children.toList.filterMap (treeOf d levels)

/-- The trees in a node.  A tree has fewer levels than there are nodes. -/
def treesIn (d : Dom) (id : NodeId) : List Tree :=
  (d.children id).toList.filterMap (d.treeOf d.nodes.size)

end Dom

end WikiPage.Html
