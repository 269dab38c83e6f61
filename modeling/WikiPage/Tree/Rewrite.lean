import WikiPage.Tree.Node
/-!
# Rewriting in document order

`Node.rewrite?` offers every node of a tree to a rule exactly once: a node before its children, and
children from first to last.  The rule may give back the node, a changed node, or another tree; the
children of what it gives back are offered next, and what it gives back is never offered again.  A rule
has a state of its own and may fail; the first failure ends the walk.

A rule that keeps adding levels would walk for ever, so the walk carries a bound on the number of levels
and gives nothing when a tree outgrows it.

A pass over a tree may be written without the walk.  Main statement: `map?_of_isWalk`, such a pass is
the walk by a transform when it gives for every node what the transform gives, with the children of
that passed through; the bound has to cover no more than what the pass gives.
-/

namespace WikiPage

/-- Where a node stands: its number among the children, and the kind of the node that holds it. -/
structure Place where
  index : Nat
  parent : Option NodeKind
  deriving DecidableEq, Repr, Inhabited

/-- The place of a top node. -/
def Place.top : Place := ⟨0, none⟩

/-- A rewriting rule with a state, which may fail. -/
abbrev RewriteRule (σ ε : Type) := Place → Node → σ → Except ε Node × σ

namespace Node

variable {σ ε : Type}

/-- Visits children in order, the first of them having the given number. -/
def rewriteChildren (visit : Place → Node → σ → Option (Except ε Node × σ)) (parent : NodeKind) :
    Nat → List Node → σ → Option (Except ε (List Node) × σ)
  | _, [], s => some (.ok [], s)
  | index, child :: rest, s =>
    match visit ⟨index, some parent⟩ child s with
    | none => none
    | some (.error e, s) => some (.error e, s)
    | some (.ok child, s) =>
      match rewriteChildren visit parent (index + 1) rest s with
      | none => none
      | some (.error e, s) => some (.error e, s)
      | some (.ok rest, s) => some (.ok (child :: rest), s)

/-- Rewrites a tree of at most the given number of levels. -/
def rewrite? (rule : RewriteRule σ ε) : Nat → Place → Node → σ → Option (Except ε Node × σ)
  | 0, _, _, _ => none
  | levels + 1, place, n, s =>
    match rule place n s with
    | (.error e, s) => some (.error e, s)
    | (.ok n, s) =>
      match rewriteChildren (rewrite? rule levels) n.kind 0 n.children s with
      | none => none
      | some (.error e, s) => some (.error e, s)
      | some (.ok children, s) => some (.ok (n.withChildren children), s)

/-- The rule of a transform that never fails, whatever errors a rule may have. -/
def ofTransform (transform : Place → Node → σ → Node × σ) : RewriteRule σ ε :=
  fun place n s => (.ok (transform place n s).1, (transform place n s).2)

/-- Rewrites a tree of at most the given number of levels by a transform that never fails. -/
def map? (transform : Place → Node → σ → Node × σ) (levels : Nat) (place : Place) (n : Node)
    (s : σ) : Option (Node × σ) :=
  match rewrite? (ε := Empty) (ofTransform transform) levels place n s with
  | some (.ok n, s) => some (n, s)
  | _ => none

/-! ## Passes that are walks -/

/-- Passes through children in order, the first of them having the given number. -/
def passChildren (pass : Place → Node → σ → Node × σ) (parent : NodeKind) :
    Nat → List Node → σ → List Node × σ
  | _, [], s => ([], s)
  | index, child :: rest, s =>
    let first := pass ⟨index, some parent⟩ child s
    let later := passChildren pass parent (index + 1) rest first.2
    (first.1 :: later.1, later.2)

/-- Whether a pass gives for every node what a transform gives, with the children of that passed
through. -/
def IsWalk (transform pass : Place → Node → σ → Node × σ) : Prop :=
  ∀ place n s,
    let made := transform place n s
    let children := passChildren pass made.1.kind 0 made.1.children made.2
    pass place n s = (made.1.withChildren children.1, children.2)

variable {transform pass : Place → Node → σ → Node × σ}

/-- Children are visited as they are passed through, when each of them is. -/
theorem rewriteChildren_of_pass {visit : Place → Node → σ → Option (Except ε Node × σ)}
    {levels : Nat} (hvisit : ∀ place n s, (pass place n s).1.depth ≤ levels →
      visit place n s = some (.ok (pass place n s).1, (pass place n s).2))
    (parent : NodeKind) (ns : List Node) : ∀ (index : Nat) (s : σ),
      depthAll (passChildren pass parent index ns s).1 ≤ levels →
        rewriteChildren visit parent index ns s =
          some (.ok (passChildren pass parent index ns s).1,
            (passChildren pass parent index ns s).2) := by
  induction ns with
  | nil => exact fun _ _ _ => rfl
  | cons n rest ih =>
    intro index s h
    simp only [passChildren, depthAll] at h
    have hn := hvisit ⟨index, some parent⟩ n s (by omega)
    have hrest := ih (index + 1) (pass ⟨index, some parent⟩ n s).2 (by omega)
    simp only [rewriteChildren, passChildren, hn, hrest]

/-- **A pass that is a walk**, at every place and at every number of levels that covers what it
gives. -/
theorem rewrite?_of_isWalk (h : IsWalk transform pass) : ∀ (levels : Nat) (place : Place) (n : Node)
    (s : σ), (pass place n s).1.depth ≤ levels →
      rewrite? (ε := ε) (ofTransform transform) levels place n s =
        some (.ok (pass place n s).1, (pass place n s).2)
  | 0, place, n, s, hlevels => absurd (depth_pos (pass place n s).1) (by omega)
  | levels + 1, place, n, s, hlevels => by
    have hpass := h place n s
    dsimp only at hpass
    rw [hpass] at hlevels ⊢
    have hchildren := @rewriteChildren_of_pass σ ε pass _ levels
      (rewrite?_of_isWalk h levels) (transform place n s).1.kind (transform place n s).1.children 0
      (transform place n s).2 (by simp only [withChildren, depth] at hlevels; omega)
    simp only [rewrite?, ofTransform] at hchildren ⊢
    simp only [hchildren]

theorem map?_of_isWalk (h : IsWalk transform pass) {levels : Nat} {place : Place} {n : Node} {s : σ}
    (hlevels : (pass place n s).1.depth ≤ levels) :
    n.map? transform levels place s = some (pass place n s) := by
  rw [map?, rewrite?_of_isWalk h levels place n s hlevels]

end Node

end WikiPage
