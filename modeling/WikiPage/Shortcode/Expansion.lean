import WikiPage.Error
import WikiPage.Shortcode.Registry
/-!
# Expanding shortcodes

Shortcodes are expanded among the nodes of one list, in place, from the last node to the first.  An
opening marker finds the list behind it already expanded; a block takes what stands there up to the
nearest closing marker of its tag, so an inner block of the same tag has been replaced by then and
has taken its own closing marker with it.  An opening marker without a closing one stays, with a
warning.

The operations on lists give nothing when an index is out of range.  Main statements: `visit?_of_lt`
and `sweep?_of_le`, that this does not happen.
-/

namespace WikiPage.Shortcode

/-- The line on which an offset of a text lies, from one. -/
def lineFrom (offset : Nat) : (line position : Nat) → List Char → Nat
  | line, _, [] => line
  | line, position, c :: rest =>
    if position < offset then
      lineFrom offset (if c == '\n' then line + 1 else line) (position + c.utf8Size) rest
    else line

/-- The line on which a span begins, when both it and the source are known. -/
def lineOf? (source : Option String) (span : Option Span) : Option Nat :=
  match source, span with
  | some source, some span => some (lineFrom span.start 1 0 source.toList)
  | _, _ => none

/-- The warning about an opening marker without a closing one. -/
def unterminated (line : Option Nat) (tag : String) : String :=
  located line (braced tag ++ " has no matching " ++ braced ("/" ++ tag))

/-! ## 1. Lists worked on in place -/

/-- The index of the first closing marker of a tag from an index on. -/
def closingFrom? (tag : String) (nodes : List Node) (start : Nat) : Option Nat :=
  ((nodes.drop start).findIdx? (closes tag)).map (start + ·)

/-- Takes the nodes at the indices from `first` to `last` out of a list: these nodes, and what is
left. Nothing when the list does not have all of these indices. -/
def drain? (nodes : List Node) (first last : Nat) : Option (List Node × List Node) :=
  if first ≤ last + 1 ∧ last < nodes.length then
    some ((nodes.drop first).take (last + 1 - first), nodes.take first ++ nodes.drop (last + 1))
  else none

/-- Puts a node into a list at an index; nothing when the index lies behind the end. -/
def insertAt? (nodes : List Node) (i : Nat) (n : Node) : Option (List Node) :=
  if i ≤ nodes.length then some (nodes.insertIdx i n) else none

theorem closingFrom?_bounds {tag : String} {nodes : List Node} {start close : Nat}
    (h : closingFrom? tag nodes start = some close) : start ≤ close ∧ close < nodes.length := by
  obtain ⟨k, hk, rfl⟩ := Option.map_eq_some_iff.1 h
  have hlt := (List.findIdx?_eq_some_iff_getElem.1 hk).1
  rw [List.length_drop] at hlt
  omega

/-! ## 2. From the last node to the first -/

/-- Works on the node at an index.  It stays, or what its handler makes takes its place, and for a
block the place of all nodes up to the nearest closing marker.  Nothing when an index is out of
range. -/
def visit? (registry : Registry) (source : Option String) (inner : List Node → Expansion) (i : Nat)
    (e : Expansion) : Option Expansion := do
  let n ← e.nodes[i]?
  match registry.recognize? n with
  | none => return e
  | some ⟨shortcode, params⟩ =>
    let tag := shortcode.name
    match shortcode.handler with
    | .inline make =>
      let (made, warnings) := make params ⟨tag, n.span, lineOf? source n.span, inner⟩
      return ⟨e.nodes.set i (made.withFallbackSpan n.span), e.warnings ++ warnings⟩
    | .block make =>
      match closingFrom? tag e.nodes (i + 1) with
      | none => return ⟨e.nodes, e.warnings ++ [unterminated (lineOf? source n.span) tag]⟩
      | some close =>
        let (taken, left) ← drain? e.nodes i close
        let closing := taken.getLast?
        let opening ← taken.dropLast.head?
        let body := taken.dropLast.tail
        let span := Span.merge? opening.span (closing.bind Node.span)
        let (made, warnings) := make params body ⟨tag, span, lineOf? source span, inner⟩
        let nodes ← insertAt? left i (made.withFallbackSpan span)
        return ⟨nodes, e.warnings ++ warnings⟩

/-- Works on the nodes before an index, the last of them first. -/
def sweep? (registry : Registry) (source : Option String) (inner : List Node → Expansion) :
    Nat → Expansion → Option Expansion
  | 0, e => some e
  | i + 1, e => (visit? registry source inner i e).bind (sweep? registry source inner i)

section Range

variable {registry : Registry} {source : Option String} {inner : List Node → Expansion}

/-- A block that lies in a list can be taken out, and has two ends. -/
theorem drain?_of_lt {nodes : List Node} {i close : Nat} (hi : i < close)
    (hclose : close < nodes.length) :
    ∃ taken left opening, drain? nodes i close = some (taken, left) ∧
      taken.dropLast.head? = some opening ∧ i ≤ left.length := by
  have hcond : i ≤ close + 1 ∧ close < nodes.length := ⟨by omega, hclose⟩
  have hne : ((nodes.drop i).take (close + 1 - i)).dropLast ≠ [] := by
    intro h
    have := congrArg List.length h
    simp at this
    omega
  exact ⟨_, _, _, if_pos hcond, List.head?_eq_some_head hne, by simp; omega⟩

/-- **No index is out of range**, and as many nodes as were to be worked on are still there. -/
theorem visit?_of_lt {i : Nat} {e : Expansion} (hi : i < e.nodes.length) :
    ∃ e', visit? registry source inner i e = some e' ∧ i < e'.nodes.length := by
  simp only [visit?, List.getElem?_eq_getElem hi, Option.bind_eq_bind, Option.bind_some]
  split
  · exact ⟨e, rfl, hi⟩
  · split
    · exact ⟨_, rfl, by simpa using hi⟩
    · split
      · exact ⟨_, rfl, hi⟩
      · rename_i close hclose
        obtain ⟨hlt, hlen⟩ := closingFrom?_bounds hclose
        obtain ⟨taken, left, opening, hdrain, hopening, hleft⟩ :=
          drain?_of_lt (Nat.lt_of_succ_le hlt) hlen
        simp only [hdrain, hopening, insertAt?, if_pos hleft, Option.bind_some]
        exact ⟨_, rfl, by rw [List.length_insertIdx_of_le_length hleft]; omega⟩

/-- The loop comes to its end. -/
theorem sweep?_of_le : ∀ {i : Nat} {e : Expansion}, i ≤ e.nodes.length →
    (sweep? registry source inner i e).isSome
  | 0, _, _ => rfl
  | i + 1, e, h => by
    obtain ⟨e', he', hlt⟩ := @visit?_of_lt registry source inner i e h
    simp only [sweep?, he', Option.bind_some]
    exact sweep?_of_le (Nat.le_of_lt hlt)

end Range

/-! ## 3. Lists and documents -/

/-- Expands the nodes of a list, when handlers expand by `inner`. -/
def expandBy (registry : Registry) (source : Option String) (inner : List Node → Expansion)
    (nodes : List Node) : Expansion :=
  (sweep? registry source inner nodes.length ⟨nodes, []⟩).get (sweep?_of_le (Nat.le_refl _))

/-- Expands the nodes of a list, handlers among them at most a number of levels deep; below that,
nodes stay as they are. -/
def expandWithin (registry : Registry) (source : Option String) : Nat → List Node → Expansion
  | 0 => fun nodes => ⟨nodes, []⟩
  | levels + 1 => expandBy registry source (expandWithin registry source levels)

/-- Expands the nodes of a list.  A handler that expands the nodes it was given finds fewer nodes
each time, so it never needs more levels than there are nodes. -/
def Registry.expand (registry : Registry) (source : Option String) (nodes : List Node) : Expansion :=
  expandWithin registry source (Node.countAll nodes + 1) nodes

/-- Expands the nodes of a document, with warnings. -/
def Registry.expandDocument (registry : Registry) (source : Option String) (n : Node) :
    Except PassError (Node × List String) :=
  if n.kind.isRoot then
    let expansion := registry.expand source n.children
    .ok (n.withChildren expansion.nodes, expansion.warnings)
  else .error (.notRoot n.kind.name)

end WikiPage.Shortcode
