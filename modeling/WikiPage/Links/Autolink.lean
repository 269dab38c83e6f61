import WikiPage.Links.Finder
import WikiPage.Tree.Node
/-!
# Links for addresses in text

An address that stands in running text becomes a link: one that begins with `http://`, `https://` or
`www.`, and a mail address.  Text that is itself the label of a link or of an image is left alone.  A text
whose bytes are those of its span passes the spans of its parts on; a text that was written with
references or escapes has parts without spans.

What addresses there are in a text is for a finder to say; `cuts` is the one of this library.

Main statements: `text_linked`, the parts of a text are its characters in order;
`mem_partNodes_cases`, what their nodes are; `standsFor_cases` and `autolinkAll_cons_cases`, what
stands for a node among others.
-/

namespace WikiPage.Links

/-- A part of a text, with its target when it is linked. -/
structure LinkedPart where
  target : Option String
  text : List Char
  deriving DecidableEq, Repr, Inhabited

/-- Whether a text begins with a given lower case text, in either case. -/
def beginsWith (start : String) (text : List Char) : Bool :=
  (text.map Char.toLower).take start.length == start.toList

/-- What an address is linked to; not every address is. -/
def Cut.target? (cut : Cut) : Option String :=
  match cut.kind with
  | none => none
  | some .email => some ("mailto:" ++ String.ofList cut.text)
  | some .url =>
    if beginsWith "http://" cut.text || beginsWith "https://" cut.text then
      some (String.ofList cut.text)
    else if beginsWith "www." cut.text then some ("http://" ++ String.ofList cut.text)
    else none

/-- The parts of a divided text: neighbours that are not linked are one part. -/
def linked : List Cut → List LinkedPart
  | [] => []
  | cut :: rest =>
    match cut.target? with
    | some target => ⟨some target, cut.text⟩ :: linked rest
    | none =>
      match linked rest with
      | ⟨none, text⟩ :: more => ⟨none, cut.text ++ text⟩ :: more
      | parts => ⟨none, cut.text⟩ :: parts

/-- The parts of a text are its characters in order. -/
theorem text_linked : ∀ cuts : List Cut,
    (linked cuts).flatMap LinkedPart.text = cuts.flatMap Cut.text
  | [] => rfl
  | cut :: rest => by
    have ih := text_linked rest
    unfold linked
    split
    · simp [ih]
    · split
      · rename_i h
        rw [h] at ih
        simp [← ih]
      · simp [ih]

/-- The nodes of the parts; `base` is the offset in the source of the whole text, if it has one, and
`offset` that of the first part in the text. -/
def partNodes (base : Option Nat) : (offset : Nat) → List LinkedPart → List Node
  | _, [] => []
  | offset, ⟨target, text⟩ :: rest =>
    let stop := offset + Text.byteLength text
    let span := base.map fun base => ⟨base + offset, base + stop⟩
    let label := (Node.text (String.ofList text)).withSpan span
    (match target with
      | some url => (Node.link url [label]).withSpan span
      | none => label) :: partNodes base stop rest

/-- **What the node of a part is**: a text, or a link that holds a text; both have spans when the
whole text has a place, and neither when it has none. -/
theorem mem_partNodes_cases {base : Option Nat} {m : Node} : ∀ {parts : List LinkedPart}
    {offset : Nat}, m ∈ partNodes base offset parts → ∃ part ∈ parts, ∃ span : Option Span,
      span.isSome = base.isSome ∧
        (m = ⟨.text (String.ofList part.text), [], span⟩ ∨
          ∃ url, m = ⟨.link url "", [⟨.text (String.ofList part.text), [], span⟩], span⟩)
  | ⟨target, text⟩ :: rest, offset, h => by
    rcases List.mem_cons.1 h with rfl | h
    · refine ⟨_, List.mem_cons_self,
        base.map fun base => ⟨base + offset, base + (offset + Text.byteLength text)⟩,
        Option.isSome_map, ?_⟩
      cases target with
      | none => exact .inl rfl
      | some url => exact .inr ⟨url, rfl⟩
    · obtain ⟨part, hpart, hm⟩ := mem_partNodes_cases h
      exact ⟨part, List.mem_cons_of_mem _ hpart, hm⟩

/-- Whether text directly in a node of this kind is a label. -/
def labels : NodeKind → Bool
  | .link .. | .image .. => true
  | _ => false

/-! ## Links for what a finder finds -/

section Finder

variable (find : List Char → List Cut)

/-- The nodes that stand for a text in which a finder finds addresses that are linked; nothing for
other nodes. -/
def splitTextWith? (n : Node) : Option (List Node) :=
  match n.kind with
  | .text value =>
    let parts := linked (find value.toList)
    if parts.any (·.target.isSome) then
      let base := match n.span with
        | some span => if span.length = value.utf8ByteSize then some span.start else none
        | none => none
      some (partNodes base 0 parts)
    else none
  | _ => none

mutual
/-- Links the addresses that a finder finds in the text of a tree. -/
def autolinkWith : Node → Node
  | ⟨kind, children, span⟩ => ⟨kind, autolinkAllWith (labels kind) children, span⟩
/-- Links the addresses that a finder finds in the text of trees, which may stand as a label. -/
def autolinkAllWith (label : Bool) : List Node → List Node
  | [] => []
  | n :: rest =>
    match (if label then none else splitTextWith? find n) with
    | some nodes => nodes ++ autolinkAllWith label rest
    | none => autolinkWith n :: autolinkAllWith label rest
end

/-- What stands for a node among others: the node with links in it, or nodes for a text. -/
def standsFor (label : Bool) (n : Node) : List Node :=
  (if label then none else splitTextWith? find n).getD [autolinkWith find n]

/-- **What stands for a node** is the node with links in it, or the parts of a text that is no
label. -/
theorem standsFor_cases (label : Bool) (n : Node) :
    standsFor find label n = [autolinkWith find n] ∨
      ∃ nodes, label = false ∧ splitTextWith? find n = some nodes ∧
        standsFor find label n = nodes := by
  unfold standsFor
  cases label with
  | true => exact .inl rfl
  | false =>
    cases h : splitTextWith? find n with
    | none => exact .inl rfl
    | some nodes => exact .inr ⟨nodes, rfl, rfl, rfl⟩

theorem autolinkAllWith_cons (label : Bool) (n : Node) (rest : List Node) :
    autolinkAllWith find label (n :: rest) =
      standsFor find label n ++ autolinkAllWith find label rest := by
  rw [autolinkAllWith, standsFor]
  split <;> rename_i hnodes <;> rw [hnodes] <;> rfl

end Finder

/-! ## Links for addresses -/

/-- The nodes that stand for a text with addresses in it; nothing for other nodes. -/
def splitText? (n : Node) : Option (List Node) := splitTextWith? cuts n

/-- Links the addresses in the text of a tree. -/
def autolink (n : Node) : Node := autolinkWith cuts n

/-- Links the addresses in the text of a list of trees, which may stand as a label. -/
def autolinkAll (label : Bool) (ns : List Node) : List Node := autolinkAllWith cuts label ns

theorem autolink_mk (kind : NodeKind) (children : List Node) (span : Option Span) :
    autolink ⟨kind, children, span⟩ = ⟨kind, autolinkAll (labels kind) children, span⟩ := by
  rw [autolink, autolinkWith, autolinkAll]

@[simp] theorem autolinkAll_nil (label : Bool) : autolinkAll label [] = [] := by
  rw [autolinkAll, autolinkAllWith]

/-- What stands for a node among others, and what stands for those after it. -/
theorem autolinkAll_cons (label : Bool) (n : Node) (rest : List Node) :
    autolinkAll label (n :: rest) =
      (if label then none else splitText? n).getD [autolink n] ++ autolinkAll label rest :=
  autolinkAllWith_cons cuts label n rest

/-- A node among others is taken as it is, or nodes that stand for a text take its place. -/
theorem autolinkAll_cons_cases (label : Bool) (n : Node) (rest : List Node) :
    autolinkAll label (n :: rest) = autolink n :: autolinkAll label rest ∨
      ∃ nodes, label = false ∧ splitText? n = some nodes ∧
        autolinkAll label (n :: rest) = nodes ++ autolinkAll label rest := by
  have hcons := autolinkAllWith_cons cuts label n rest
  obtain h | ⟨nodes, hlabel, hsplit, h⟩ := standsFor_cases cuts label n <;> rw [h] at hcons
  · exact .inl hcons
  · exact .inr ⟨nodes, hlabel, hsplit, hcons⟩

end WikiPage.Links
