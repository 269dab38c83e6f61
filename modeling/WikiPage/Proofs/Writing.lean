import WikiPage.Markup.Writer
/-!
# How each kind of node is written

The markup of a node is that of what it holds, between parts of its own.  This file says so once for
all kinds, so that a law of the writer need not go through them again.

* `opening` and `closing` are the parts around, and `held` the markup between them: `nodeParts_eq`.
* A generated element is written so when it and its attributes have names that markup can have, and
  not at all otherwise: `isNamed_of_nodeParts`.
-/

namespace WikiPage

namespace NodeKind

/-- Whether the markup of a node of this kind has that of its children in it. -/
def showsChildren : NodeKind → Bool
  | codeBlock .. | taskMarker _ | image .. | text _ | inlineCode _ | html _ | inlineMath _
  | displayMath _ | footnoteReference _ | softBreak | hardBreak | rule => false
  | element tag _ => !Markup.voidElements.contains tag
  | _ => true

/-- The label of a footnote or of a reference to one. -/
def footnoteLabel? : NodeKind → Option String
  | footnoteReference label | footnoteDefinition label => some label
  | _ => none

/-- Whether nodes of this kind have names that markup can have, as far as they bring names along. -/
def isNamed : NodeKind → Bool
  | element tag attributes => Markup.isName tag && attributes.entries.all (Markup.isName ·.1)
  | _ => true

/-- Whether nodes of this kind are raw markup. -/
def isRaw : NodeKind → Bool
  | html _ => true
  | _ => false

end NodeKind

namespace Markup

/-! ## 1. Around what a node holds -/

/-- An attribute of a generated element, if it is written. -/
def shown? : String × AttrValue → Option (String × Option String)
  | (name, .text value) => some (name, some value)
  | (name, .flag true) => some (name, none)
  | (_, .flag false) => none

/-- The footnote labels met before the children of a node of this kind. -/
def labelsWithin (labels : List String) (kind : NodeKind) : List String :=
  match kind.footnoteLabel? with
  | some label => (footnoteNumber labels label).2
  | none => labels

/-- What is written of a node before that which it holds. -/
def opening (labels : List String) (n : Node) : List Part :=
  match n.kind with
  | .root | .tableHead | .tableRow | .tableCell => []
  | .paragraph => [.start "p" []]
  | .heading level id classes => [.start ("h" ++ toString level) (headingAttributes id classes)]
  | .blockQuote none => [.start "blockquote" []]
  | .blockQuote (some alert) =>
    [.start "div" [("class", some ("alert alert-" ++ alert.name))]] ++
      textIn "div" [("class", some "alert-title")] alert.title ++
      [.start "div" [("class", some "alert-content")]]
  | .codeBlock lang code =>
    let attributes := match lang with
      | some lang => [("class", some ("language-" ++ lang))]
      | none => []
    [.start "pre" []] ++ textIn "code" attributes code
  | .list none => [.start "ul" []]
  | .list (some n) => [.start "ol" (if n = 1 then [] else [("start", some (toString n))])]
  | .listItem => [.start "li" []]
  | .taskMarker checked =>
    [.start "input" ([("type", some "checkbox"), ("disabled", none)] ++
      if checked then [("checked", none)] else [])]
  | .table _ => [.start "table" []]
  | .emphasis => [.start "em" []]
  | .strong => [.start "strong" []]
  | .strikethrough => [.start "s" []]
  | .superscript => [.start "sup" []]
  | .subscript => [.start "sub" []]
  | .link url title => [.start "a" (("href", some url) :: titleAttribute title)]
  | .image url title =>
    [.start "img" (("src", some url) :: titleAttribute title ++ [("alt", some n.plainText)])]
  | .text value => [.text value]
  | .inlineCode value => textIn "code" [] value
  | .html value => [.raw value]
  | .inlineMath value => textIn "span" [("class", some "math math-inline")] value
  | .displayMath value => textIn "span" [("class", some "math math-display")] value
  | .footnoteReference label =>
    [.start "sup" [("class", some "footnote-reference")]] ++
      textIn "a" [("href", some ("#fn-" ++ label))] (toString (footnoteNumber labels label).1)
  | .footnoteDefinition label =>
    [.start "div" [("class", some "footnote-definition"), ("id", some ("fn-" ++ label))]] ++
      textIn "sup" [("class", some "footnote-definition-label")]
        (toString (footnoteNumber labels label).1)
  | .definitionList => [.start "dl" []]
  | .definitionTitle => [.start "dt" []]
  | .definitionDetails => [.start "dd" []]
  | .softBreak => [.text "\n"]
  | .hardBreak => [.start "br" []]
  | .rule => [.start "hr" []]
  | .element tag attributes => [.start tag (attributes.entries.filterMap shown?)]

/-- What is written of a node behind that which it holds. -/
def closing : NodeKind → List Part
  | .paragraph => [.stop "p"]
  | .heading level _ _ => [.stop ("h" ++ toString level)]
  | .blockQuote none => [.stop "blockquote"]
  | .blockQuote (some _) => [.stop "div", .stop "div"]
  | .codeBlock .. => [.stop "pre"]
  | .list none => [.stop "ul"]
  | .list (some _) => [.stop "ol"]
  | .listItem => [.stop "li"]
  | .table _ => [.stop "table"]
  | .emphasis => [.stop "em"]
  | .strong => [.stop "strong"]
  | .strikethrough => [.stop "s"]
  | .superscript | .footnoteReference _ => [.stop "sup"]
  | .subscript => [.stop "sub"]
  | .link .. => [.stop "a"]
  | .footnoteDefinition _ => [.stop "div"]
  | .definitionList => [.stop "dl"]
  | .definitionTitle => [.stop "dt"]
  | .definitionDetails => [.stop "dd"]
  | .element tag _ => if voidElements.contains tag then [] else [.stop tag]
  | _ => []

/-- The markup of that which a node holds: a table has its sections, and other nodes their children,
if these are shown. -/
def held (labels : List String) (n : Node) : Written :=
  match n.kind with
  | .table alignments => sectionParts alignments false labels n.children
  | kind =>
    if kind.showsChildren then allParts (labelsWithin labels kind) n.children
    else nothing (labelsWithin labels kind)

/-! ## 2. The two forms are the same -/

theorem elementAttributes_eq {entries : List (String × AttrValue)}
    (h : entries.all (isName ·.1) = true) :
    elementAttributes entries = .ok (entries.filterMap shown?) := by
  induction entries with
  | nil => rfl
  | cons entry rest ih =>
    obtain ⟨name, value⟩ := entry
    rw [List.all_cons, Bool.and_eq_true] at h
    rw [elementAttributes, if_pos h.1, ih h.2]
    rcases value with value | _ | _ <;> rfl

theorem all_isName_of_elementAttributes {entries : List (String × AttrValue)}
    {attributes : List (String × Option String)} (h : elementAttributes entries = .ok attributes) :
    entries.all (isName ·.1) = true := by
  induction entries generalizing attributes with
  | nil => rfl
  | cons entry rest ih =>
    obtain ⟨name, value⟩ := entry
    rw [elementAttributes] at h
    split at h
    · rename_i hname
      split at h
      · cases h
      · rename_i others hothers
        rw [List.all_cons, hname, ih hothers]
        rfl
    · cases h

theorem between_nil (w : Written) : between [] w [] = w := by
  rcases w with e | ⟨parts, labels⟩
  · rfl
  · simp only [between, List.nil_append, List.append_nil]

/-- **How a node is written**, when its names are names. -/
theorem nodeParts_eq (labels : List String) {n : Node} (h : n.kind.isNamed = true) :
    nodeParts labels n = between (opening labels n) (held labels n) (closing n.kind) := by
  obtain ⟨kind, children, span⟩ := n
  cases kind with
  | element tag attributes =>
    rw [NodeKind.isNamed, Bool.and_eq_true] at h
    cases hvoid : voidElements.contains tag <;>
      simp only [nodeParts, generated, h.1, elementAttributes_eq h.2, held, opening, closing,
        NodeKind.showsChildren, hvoid, Bool.not_true, Bool.not_false, Bool.false_eq_true,
        ↓reduceIte] <;>
      rfl
  | root | tableHead | tableRow | tableCell => exact (between_nil _).symm
  | blockQuote alert => cases alert <;> rfl
  | list start => cases start <;> rfl
  | _ => rfl

/-- A node that is written has names. -/
theorem isNamed_of_nodeParts {labels : List String} {n : Node} {parts : List Part × List String}
    (h : nodeParts labels n = .ok parts) : n.kind.isNamed = true := by
  obtain ⟨kind, children, span⟩ := n
  cases kind with
  | element tag attributes =>
    simp only [nodeParts, generated] at h
    split at h
    · rename_i htag
      split at h
      · cases h
      · rename_i shown hshown
        rw [NodeKind.isNamed, htag, all_isName_of_elementAttributes hshown]
        rfl
    · cases h
  | _ => rfl

/-- What stands in a table without being a row of it is written as it is elsewhere. -/
theorem sectionParts_cons {alignments : List Alignment} {inBody : Bool} {labels : List String}
    {n : Node} {rest : List Node} (hhead : n.kind ≠ .tableHead) (hrow : n.kind ≠ .tableRow) :
    sectionParts alignments inBody labels (n :: rest) =
      andThen (nodeParts labels n) fun labels => sectionParts alignments inBody labels rest := by
  obtain ⟨kind, children, span⟩ := n
  cases kind with
  | tableHead => exact absurd rfl hhead
  | tableRow => exact absurd rfl hrow
  | _ => rfl

/-! ## 3. What is written came from its parts -/

theorem ok_of_between {before after parts : List Part} {inner : Written} {labels : List String}
    (h : between before inner after = .ok (parts, labels)) :
    ∃ within, inner = .ok (within, labels) ∧ parts = before ++ within ++ after := by
  rcases inner with e | ⟨within, labels'⟩
  · cases h
  · cases h
    exact ⟨within, rfl, rfl⟩

theorem ok_of_andThen {first : Written} {next : List String → Written} {parts : List Part}
    {labels : List String} (h : andThen first next = .ok (parts, labels)) :
    ∃ before met after, first = .ok (before, met) ∧ next met = .ok (after, labels) ∧
      parts = before ++ after := by
  rcases first with e | ⟨before, met⟩
  · cases h
  · simp only [andThen] at h
    rcases hnext : next met with e | ⟨after, labels'⟩ <;> rw [hnext] at h
    · cases h
    · cases h
      exact ⟨before, met, after, rfl, hnext, rfl⟩

/-- What is written of a node stands around what is written of that which it holds. -/
theorem ok_of_nodeParts {labels labels' : List String} {n : Node} {parts : List Part}
    (h : nodeParts labels n = .ok (parts, labels')) :
    n.kind.isNamed = true ∧ ∃ within, held labels n = .ok (within, labels') ∧
      parts = opening labels n ++ within ++ closing n.kind := by
  have hnamed := isNamed_of_nodeParts h
  rw [nodeParts_eq labels hnamed] at h
  exact ⟨hnamed, ok_of_between h⟩

end Markup

end WikiPage
