import Mathlib.Data.List.Induction
import Mathlib.Data.List.TakeWhile
import WikiPage.Shortcode.Expansion
/-!
# Expansion reads from the right

`sweep?` works on a list in place: an index walks from the end to the start, blocks are drained out
of the list and what they become is inserted.  This file gives the same thing as a recursion over
the list and proves the two equal.

* `expandBefore` puts one node in front of nodes that are already expanded; `expandFromRight` does
  so with every node of a list, the last one first.
* `visit?_append` is the invariant of the loop: on `before ++ n :: after` a visit at `before.length`
  leaves `before` alone, and does to the rest what `expandBefore` does.
* `sweep?_eq_expandFromRight`: the loop comes to its end on every list, and gives what the recursion
  gives.
-/

namespace WikiPage.Shortcode

/-! ## 1. The recursion -/

/-- Expands a node in front of nodes that are expanded.  A block takes the nodes up to the nearest
closing marker of its tag. -/
def expandBefore (registry : Registry) (source : Option String) (inner : List Node → Expansion)
    (n : Node) (after : Expansion) : Expansion :=
  match registry.recognize? n with
  | none => ⟨n :: after.nodes, after.warnings⟩
  | some ⟨shortcode, params⟩ =>
    let tag := shortcode.name
    match shortcode.handler with
    | .inline make =>
      let (made, warnings) := make params ⟨tag, n.span, lineOf? source n.span, inner⟩
      ⟨made.withFallbackSpan n.span :: after.nodes, after.warnings ++ warnings⟩
    | .block make =>
      let body := after.nodes.takeWhile (!closes tag ·)
      match after.nodes.dropWhile (!closes tag ·) with
      | [] => ⟨n :: after.nodes, after.warnings ++ [unterminated (lineOf? source n.span) tag]⟩
      | closing :: rest =>
        let span := Span.merge? n.span closing.span
        let (made, warnings) := make params body ⟨tag, span, lineOf? source span, inner⟩
        ⟨made.withFallbackSpan span :: rest, after.warnings ++ warnings⟩

/-- Expands a list from its end: the nodes behind a node are expanded before it is looked at. -/
def expandFromRight (registry : Registry) (source : Option String)
    (inner : List Node → Expansion) : List Node → Expansion
  | [] => ⟨[], []⟩
  | n :: rest =>
    expandBefore registry source inner n (expandFromRight registry source inner rest)

section Sweep

variable {registry : Registry} {source : Option String} {inner : List Node → Expansion}

theorem expandBefore_none {n : Node} (after : Expansion) (hn : registry.recognize? n = none) :
    expandBefore registry source inner n after = ⟨n :: after.nodes, after.warnings⟩ := by
  simp only [expandBefore, hn]

theorem expandBefore_inline {n : Node} {d : Directive} {make : Params → Context → Node × List String}
    (after : Expansion) (hn : registry.recognize? n = some d)
    (hmake : d.shortcode.handler = .inline make) :
    expandBefore registry source inner n after =
      let made := make d.params ⟨d.shortcode.name, n.span, lineOf? source n.span, inner⟩
      ⟨made.1.withFallbackSpan n.span :: after.nodes, after.warnings ++ made.2⟩ := by
  simp only [expandBefore, hn, hmake]

theorem expandBefore_unterminated {n : Node} {d : Directive}
    {make : Params → List Node → Context → Node × List String} (after : Expansion)
    (hn : registry.recognize? n = some d) (hmake : d.shortcode.handler = .block make)
    (hafter : after.nodes.dropWhile (!closes d.shortcode.name ·) = []) :
    expandBefore registry source inner n after =
      ⟨n :: after.nodes,
        after.warnings ++ [unterminated (lineOf? source n.span) d.shortcode.name]⟩ := by
  simp only [expandBefore, hn, hmake, hafter]

theorem expandBefore_block {n : Node} {d : Directive}
    {make : Params → List Node → Context → Node × List String} (after : Expansion) {closing : Node}
    {rest : List Node} (hn : registry.recognize? n = some d)
    (hmake : d.shortcode.handler = .block make)
    (hafter : after.nodes.dropWhile (!closes d.shortcode.name ·) = closing :: rest) :
    expandBefore registry source inner n after =
      let span := Span.merge? n.span closing.span
      let made := make d.params (after.nodes.takeWhile (!closes d.shortcode.name ·))
        ⟨d.shortcode.name, span, lineOf? source span, inner⟩
      ⟨made.1.withFallbackSpan span :: rest, after.warnings ++ made.2⟩ := by
  simp only [expandBefore, hn, hmake, hafter]

/-! ## 2. Operations at a place in the list -/

theorem closingFrom?_append {tag : String} (before : List Node) (n : Node) {body : List Node}
    {closing : Node} (rest : List Node) (hbody : ∀ m ∈ body, closes tag m = false)
    (hclosing : closes tag closing = true) :
    closingFrom? tag (before ++ n :: (body ++ closing :: rest)) (before.length + 1) =
      some (before.length + 1 + body.length) := by
  have hnone : body.findIdx? (closes tag) = none := List.findIdx?_eq_none_iff.2 hbody
  rw [closingFrom?, List.drop_length_add_append]
  simp [List.findIdx?_append, hnone, List.findIdx?_cons, hclosing]

theorem closingFrom?_append_eq_none {tag : String} (before : List Node) (n : Node)
    {after : List Node} (hafter : ∀ m ∈ after, closes tag m = false) :
    closingFrom? tag (before ++ n :: after) (before.length + 1) = none := by
  have hnone : after.findIdx? (closes tag) = none := List.findIdx?_eq_none_iff.2 hafter
  rw [closingFrom?, List.drop_length_add_append]
  simp [hnone]

theorem drain?_append (before : List Node) (n : Node) (body : List Node) (closing : Node)
    (rest : List Node) :
    drain? (before ++ n :: (body ++ closing :: rest)) before.length
        (before.length + 1 + body.length) =
      some (n :: (body ++ [closing]), before ++ rest) := by
  have hcond : before.length ≤ before.length + 1 + body.length + 1 ∧
      before.length + 1 + body.length < (before ++ n :: (body ++ closing :: rest)).length := by
    simp only [List.length_append, List.length_cons]
    omega
  have hblock : before ++ n :: (body ++ closing :: rest) =
      before ++ ((n :: (body ++ [closing])) ++ rest) := by simp
  have hlength : before.length + 1 + body.length + 1 =
      before.length + (n :: (body ++ [closing])).length := by
    simp only [List.length_append, List.length_cons, List.length_nil]
    omega
  rw [drain?, if_pos hcond, hblock, hlength, List.drop_length_add_append, Nat.add_sub_cancel_left,
    List.drop_left, List.take_left, List.drop_left, List.take_left]

theorem insertAt?_append (before rest : List Node) (n : Node) :
    insertAt? (before ++ rest) before.length n = some (before ++ n :: rest) := by
  have hle : before.length ≤ (before ++ rest).length := by simp
  rw [insertAt?, if_pos hle]
  induction before with
  | nil => rfl
  | cons m before ih => simp_all

/-! ## 3. One visit -/

/-- What a block takes: the nodes in front of the first closing marker of its tag. -/
theorem nearest_closing {tag : String} {after : List Node} {closing : Node} {rest : List Node}
    (h : after.dropWhile (!closes tag ·) = closing :: rest) :
    after = after.takeWhile (!closes tag ·) ++ closing :: rest ∧ closes tag closing = true ∧
      ∀ m ∈ after.takeWhile (!closes tag ·), closes tag m = false := by
  refine ⟨?_, ?_, fun m hm => ?_⟩
  · rw [← h, List.takeWhile_append_dropWhile]
  · have := List.head?_dropWhile_not (!closes tag ·) after
    simpa [h] using this
  · simpa using List.mem_takeWhile_imp hm

/-- Nothing closes a block that finds no marker. -/
theorem no_closing {tag : String} {after : List Node} (h : after.dropWhile (!closes tag ·) = []) :
    ∀ m ∈ after, closes tag m = false := fun m hm => by
  simpa using List.dropWhile_eq_nil_iff.1 h m hm

/-- **One visit does one step of the recursion**, and the nodes before the index stay as they are.
-/
theorem visit?_append (before : List Node) (n : Node) (after : Expansion) :
    visit? registry source inner before.length ⟨before ++ n :: after.nodes, after.warnings⟩ =
      some ⟨before ++ (expandBefore registry source inner n after).nodes,
        (expandBefore registry source inner n after).warnings⟩ := by
  cases hn : registry.recognize? n with
  | none => simp [visit?, hn, expandBefore_none _ hn]
  | some d =>
    cases hmake : d.shortcode.handler with
    | inline make => simp [visit?, hn, hmake, expandBefore_inline _ hn hmake]
    | block make =>
      cases hdrop : after.nodes.dropWhile (!closes d.shortcode.name ·) with
      | nil =>
        have hclose := closingFrom?_append_eq_none before n (no_closing hdrop)
        simp [visit?, hn, hmake, hclose, expandBefore_unterminated after hn hmake hdrop]
      | cons closing rest =>
        obtain ⟨hafter, hclosing, hbody⟩ := nearest_closing hdrop
        have hget : (before ++ n :: after.nodes)[before.length]? = some n := by simp
        have hclose := closingFrom?_append before n rest hbody hclosing
        have hdrain := drain?_append before n
          (after.nodes.takeWhile (!closes d.shortcode.name ·)) closing rest
        rw [← hafter] at hclose hdrain
        simp only [visit?, hget, hn, hmake, hclose, hdrain, insertAt?_append, Option.bind_eq_bind,
          Option.bind_some, ← List.cons_append, List.getLast?_concat, List.dropLast_concat,
          List.head?_cons, List.tail_cons, Option.pure_def, expandBefore_block after hn hmake hdrop]

/-! ## 4. The loop -/

/-- Warnings given before stay in front. -/
theorem expandBefore_warnings (n : Node) (e : Expansion) (earlier : List String) :
    expandBefore registry source inner n ⟨e.nodes, earlier ++ e.warnings⟩ =
      ⟨(expandBefore registry source inner n e).nodes,
        earlier ++ (expandBefore registry source inner n e).warnings⟩ := by
  cases hn : registry.recognize? n with
  | none => simp only [expandBefore_none _ hn]
  | some d =>
    cases hmake : d.shortcode.handler with
    | inline make => simp only [expandBefore_inline _ hn hmake, List.append_assoc]
    | block make =>
      cases hdrop : e.nodes.dropWhile (!closes d.shortcode.name ·) with
      | nil =>
        rw [expandBefore_unterminated ⟨e.nodes, earlier ++ e.warnings⟩ hn hmake hdrop,
          expandBefore_unterminated e hn hmake hdrop, List.append_assoc]
      | cons closing rest =>
        rw [expandBefore_block ⟨e.nodes, earlier ++ e.warnings⟩ hn hmake hdrop,
          expandBefore_block e hn hmake hdrop]
        simp only [List.append_assoc]

/-- The loop from an index on: the nodes before it are still to be expanded, one after the other
from the right, in front of what stands behind it. -/
theorem sweep?_append (before : List Node) : ∀ e : Expansion,
    sweep? registry source inner before.length ⟨before ++ e.nodes, e.warnings⟩ =
      some (before.foldr (expandBefore registry source inner) e) := by
  induction before using List.reverseRecOn with
  | nil => exact fun _ => rfl
  | append_singleton before n ih =>
    intro e
    rw [List.length_append, List.length_singleton, sweep?, List.append_assoc, List.singleton_append,
      visit?_append, Option.bind_some, ih, List.foldr_append]
    rfl

/-- Expanding a list in front of nothing is expanding it from the right. -/
theorem foldr_expandBefore (nodes : List Node) (earlier : List String) :
    nodes.foldr (expandBefore registry source inner) ⟨[], earlier⟩ =
      ⟨(expandFromRight registry source inner nodes).nodes,
        earlier ++ (expandFromRight registry source inner nodes).warnings⟩ := by
  induction nodes with
  | nil => simp [expandFromRight]
  | cons n rest ih => rw [List.foldr_cons, ih, expandBefore_warnings, expandFromRight]

/-- Expanding a list in place is expanding it from the right. -/
theorem expandBy_eq_expandFromRight (nodes : List Node) :
    expandBy registry source inner nodes = expandFromRight registry source inner nodes := by
  have h := @sweep?_append registry source inner nodes ⟨[], []⟩
  rw [List.append_nil, foldr_expandBefore] at h
  exact Option.get_of_eq_some _ h

/-- A registry expands a list from the right; handlers that expand have one level less. -/
theorem Registry.expand_eq_expandFromRight (nodes : List Node) :
    registry.expand source nodes =
      expandFromRight registry source (expandWithin registry source (Node.countAll nodes)) nodes :=
  expandBy_eq_expandFromRight nodes

end Sweep

/-- **Expansion in place is the recursion from the right**, whatever handlers make and whatever they
expand by: no index is out of range, the loop stops, the nodes are those of the recursion, and its
warnings follow the earlier ones in the same order.  A registry expands lists so. -/
theorem sweep?_eq_expandFromRight (registry : Registry) (source : Option String)
    (inner : List Node → Expansion) (nodes : List Node) (earlier : List String) :
    sweep? registry source inner nodes.length ⟨nodes, earlier⟩ =
        some ⟨(expandFromRight registry source inner nodes).nodes,
          earlier ++ (expandFromRight registry source inner nodes).warnings⟩ ∧
      registry.expand source nodes = expandFromRight registry source
        (expandWithin registry source (Node.countAll nodes)) nodes := by
  constructor
  · have h := @sweep?_append registry source inner nodes ⟨[], earlier⟩
    rw [List.append_nil, foldr_expandBefore] at h
    exact h
  · exact registry.expand_eq_expandFromRight nodes

end WikiPage.Shortcode
