import WikiPage.Proofs.Expansion
import WikiPage.Shortcode.Standard
/-!
# What the standard handlers make

* `BuiltIn` names the handlers that come with the library, with any kind of hint and any address of
  blueprints; the standard registry has no others (`builtIn_of_mem_standard`).
* None of them makes a closing marker (`BuiltIn.neverCloses`), and no closing marker opens anything
  (`Registry.recognize?_of_closes`).
* A block of theirs puts a box around what it takes and adds nothing to it (`BuiltIn.block_made`);
  an inline shortcode of theirs makes a single node that is no box (`BuiltIn.inline_made`).
* `expandBefore_cases` says all that can happen to a node in front of expanded nodes when the
  registry holds built-in shortcodes only.
* `boxLevels` counts how many boxes stand in one another, and `siblings` how many nodes of a list
  became one node: two markers for a box, besides what became the nodes in it.
-/

namespace WikiPage

@[simp] theorem Attributes.getText?_withText (a : Attributes) (name value key : String) :
    (a.withText name value).getText? key = if key = name then some value else a.getText? key := by
  unfold Attributes.getText? Attributes.withText
  rw [NameMap.get?_insert]
  split <;> rfl

@[simp] theorem Attributes.getText?_withFlag (a : Attributes) (name : String) (set : Bool)
    (key : String) :
    (a.withFlag name set).getText? key = if key = name then none else a.getText? key := by
  unfold Attributes.getText? Attributes.withFlag
  rw [NameMap.get?_insert]
  split <;> rfl

namespace Node

@[simp] theorem kind_withFallbackSpan (n : Node) (span : Option Span) :
    (n.withFallbackSpan span).kind = n.kind := by
  unfold withFallbackSpan
  split <;> rfl

@[simp] theorem children_withFallbackSpan (n : Node) (span : Option Span) :
    (n.withFallbackSpan span).children = n.children := by
  unfold withFallbackSpan
  split <;> rfl

end Node

namespace Shortcode

/-! ## 1. The handlers -/

/-- The shortcodes that come with the library. -/
inductive BuiltIn : Shortcode → Prop where
  | hint (kind : String) : BuiltIn (hint kind)
  | blueprint (address : String) : BuiltIn (blueprint address)
  | versionGate : BuiltIn versionGate

theorem builtIn_of_mem_standard {s : Shortcode} (h : s ∈ Registry.standard.shortcodes) :
    BuiltIn s := by
  rcases List.mem_append.1 h with h | h
  · obtain ⟨kind, _, rfl⟩ := List.mem_map.1 h
    exact .hint kind
  · rcases List.mem_cons.1 h with rfl | h
    · exact .blueprint _
    · rw [List.mem_singleton.1 h]
      exact .versionGate

/-- The shortcode that a node opens is a registered one. -/
theorem Registry.mem_of_recognize? {r : Registry} {n : Node} {d : Directive}
    (h : r.recognize? n = some d) : d.shortcode ∈ r.shortcodes := by
  unfold Registry.recognize? at h
  split at h
  · cases h
  · obtain ⟨s, hs, rfl⟩ := Option.map_eq_some_iff.1 h
    exact List.mem_of_find?_eq_some hs

/-! ## 2. Markers -/

/-- A paragraph that holds a marker. -/
def markerOf (text : String) : Node := .paragraph [.text (braced text)]

/-- Whether a node is a marker: it opens a registered shortcode, or is a closing one. -/
def Registry.IsMarker (r : Registry) (n : Node) : Prop :=
  (r.recognize? n).isSome ∨ (closedTag? n).isSome

/-- A closing marker opens nothing. -/
theorem Registry.recognize?_of_closes (r : Registry) {tag : String} {n : Node}
    (h : closes tag n = true) : r.recognize? n = none := by
  have hopening : opening? n = none := by
    unfold closes closedTag? at h
    split at h
    · rename_i rest hmarker
      simp only [opening?, hmarker]
    · cases h
  simp only [Registry.recognize?, hopening]

@[simp] theorem closedTag?_withFallbackSpan (n : Node) (span : Option Span) :
    closedTag? (n.withFallbackSpan span) = closedTag? n := by
  unfold Node.withFallbackSpan
  split <;> rfl

theorem closedTag?_of_closes {tag : String} {n : Node} (h : closes tag n = true) :
    closedTag? n = some tag :=
  eq_of_beq h

theorem closes_of_closedTag?_eq_none {n : Node} (h : closedTag? n = none) (tag : String) :
    closes tag n = false := by
  rw [closes, h]
  rfl

/-- Whether a handler never makes a closing marker. -/
def Handler.NeverCloses : Handler → Prop
  | block make => ∀ params body ctx, closedTag? (make params body ctx).1 = none
  | inline make => ∀ params ctx, closedTag? (make params ctx).1 = none

/-- Built-in shortcodes make elements, and a closing marker is a paragraph. -/
theorem BuiltIn.neverCloses {s : Shortcode} (hs : BuiltIn s) : s.handler.NeverCloses := by
  cases hs with
  | hint kind => exact fun _ _ _ => rfl
  | blueprint address =>
    intro params ctx
    unfold blueprintNode
    dsimp only
    split <;> rfl
  | versionGate => exact fun _ _ _ => rfl

/-! ## 3. Boxes -/

/-- Whether nodes of a kind are the box around a built-in block: its class is that of hints or of
parts for some versions. -/
def isBox : NodeKind → Bool
  | .element _ attributes =>
    match attributes.getText? "class" with
    | some c => c == "version" || "hint is-".toList.isPrefixOf c.toList
    | none => false
  | _ => false

theorem isBox_element {tag : String} {attributes : Attributes} {c : String}
    (h : attributes.getText? "class" = some c) :
    isBox (.element tag attributes) = (c == "version" || "hint is-".toList.isPrefixOf c.toList) := by
  simp only [isBox, h]

/-- A built-in block becomes a box that holds what stood between the markers. -/
theorem BuiltIn.block_made {s : Shortcode} (hs : BuiltIn s)
    {make : Params → List Node → Context → Node × List String} (h : s.handler = .block make)
    (params : Params) (body : List Node) (ctx : Context) :
    isBox (make params body ctx).1.kind = true ∧ (make params body ctx).1.children = body := by
  cases hs with
  | hint kind =>
    cases h
    refine ⟨?_, rfl⟩
    refine (isBox_element (c := "hint is-" ++ kind) (by simp)).trans ?_
    simp [String.toList_append]
  | blueprint address => cases h
  | versionGate =>
    cases h
    exact ⟨(isBox_element (c := "version") (by simp)).trans rfl, rfl⟩

/-- A built-in inline shortcode becomes a node without children that is no box. -/
theorem BuiltIn.inline_made {s : Shortcode} (hs : BuiltIn s)
    {make : Params → Context → Node × List String} (h : s.handler = .inline make) (params : Params)
    (ctx : Context) :
    isBox (make params ctx).1.kind = false ∧ (make params ctx).1.children = [] := by
  cases hs with
  | hint kind => cases h
  | blueprint address =>
    cases h
    unfold blueprintNode
    dsimp only
    split
    · exact ⟨(isBox_element (c := "blueprint") (by simp)).trans (by decide), rfl⟩
    · exact ⟨(isBox_element (c := "blueprint is-invalid") (by simp)).trans (by decide), rfl⟩
  | versionGate => cases h

/-- A closing marker is a paragraph, and so no box. -/
theorem isBox_of_closes {tag : String} {n : Node} (h : closes tag n = true) :
    isBox n.kind = false := by
  obtain ⟨kind, children, span⟩ := n
  cases kind <;> first | rfl | simp [closes, closedTag?, markerText?, Node.isParagraph] at h

/-- **What becomes of a node in front of expanded nodes**: it stays, or a node without children
takes its place, or a box takes its place and that of all nodes up to the nearest closing marker. -/
theorem expandBefore_cases {registry : Registry} (hr : ∀ s ∈ registry.shortcodes, BuiltIn s)
    (source : Option String) (inner : List Node → Expansion) (n : Node) (after : Expansion) :
    (expandBefore registry source inner n after).nodes = n :: after.nodes ∨
      (∃ made, (expandBefore registry source inner n after).nodes = made :: after.nodes ∧
        isBox made.kind = false ∧ made.children = []) ∨
      ∃ box closing rest tag, (expandBefore registry source inner n after).nodes = box :: rest ∧
        isBox box.kind = true ∧ after.nodes = box.children ++ closing :: rest ∧
        closes tag closing = true := by
  cases hn : registry.recognize? n with
  | none => exact .inl (congrArg Expansion.nodes (expandBefore_none _ hn))
  | some d =>
    have hs := hr _ (Registry.mem_of_recognize? hn)
    cases hmake : d.shortcode.handler with
    | inline make =>
      have hmade := hs.inline_made hmake d.params
      exact .inr (.inl ⟨_, congrArg Expansion.nodes (expandBefore_inline _ hn hmake), by simp [hmade],
        by simp [hmade]⟩)
    | block make =>
      cases hdrop : after.nodes.dropWhile (!closes d.shortcode.name ·) with
      | nil => exact .inl (congrArg Expansion.nodes (expandBefore_unterminated after hn hmake hdrop))
      | cons closing rest =>
        obtain ⟨hafter, hclosing, _⟩ := nearest_closing hdrop
        have hmade := hs.block_made hmake d.params
        exact .inr (.inr ⟨_, closing, rest, _,
          congrArg Expansion.nodes (expandBefore_block after hn hmake hdrop), by simp [hmade],
          by simpa [hmade] using hafter, hclosing⟩)

/-! ## 4. Counting boxes -/

mutual
/-- How many boxes stand in one another, from a node down. -/
def boxLevels : Node → Nat
  | ⟨kind, children, _⟩ => if isBox kind then 1 + boxLevelsAll children else 0
/-- How many boxes stand in one another among nodes. -/
def boxLevelsAll : List Node → Nat
  | [] => 0
  | n :: rest => max (boxLevels n) (boxLevelsAll rest)
end

mutual
/-- How many nodes of a list became a node: a box has its two markers, any other node itself. -/
def siblings : Node → Nat
  | ⟨kind, children, _⟩ => if isBox kind then 2 + siblingsAll children else 1
/-- How many nodes of a list became some nodes. -/
def siblingsAll : List Node → Nat
  | [] => 0
  | n :: rest => siblings n + siblingsAll rest
end

mutual
/-- Each level of boxes has taken two markers. -/
theorem boxLevels_le_siblings : ∀ n : Node, 2 * boxLevels n ≤ siblings n
  | ⟨kind, children, _⟩ => by
    have h := boxLevelsAll_le_siblingsAll children
    simp only [boxLevels, siblings]
    split <;> omega
theorem boxLevelsAll_le_siblingsAll : ∀ ns : List Node, 2 * boxLevelsAll ns ≤ siblingsAll ns
  | [] => Nat.le_refl 0
  | n :: rest => by
    have hn := boxLevels_le_siblings n
    have hrest := boxLevelsAll_le_siblingsAll rest
    simp only [boxLevelsAll, siblingsAll]
    omega
end

end Shortcode

end WikiPage
