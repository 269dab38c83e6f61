import WikiPage.Proofs.Fates
/-!
# How deep handlers expand

A handler may expand nodes, and the handlers that are called for these may expand nodes too.  Every
expansion is bounded by a number of levels, and below that nodes stay as they are.  Handlers that
expand what they are given never come to the bound: what they are given are fewer nodes each time.

* `Handler.ExpandsBody` says it of a handler: its result depends on the expansion of lists that are
  no longer than what it is given.
* `expandFromRight_congr`, `unclosedIn_congr`: so the expansion of a list depends on that of shorter
  ones.
* `expandWithin_of_le`: levels do not matter as long as there are more of them than nodes.
* `Registry.expand_eq_expandFromRight_expand`: handlers that expand call the registry back.
-/

namespace WikiPage.Shortcode

section Levels

variable {r : Registry} {source : Option String} {inner : List Node → Expansion}

/-! ## 1. Handlers that expand what they are given -/

/-- Whether a handler that expands nodes expands no more of them than it is given. -/
def Handler.ExpandsBody : Handler → Prop
  | block make => ∀ params body tag span line expand expand',
      (∀ nodes : List Node, nodes.length ≤ body.length → expand nodes = expand' nodes) →
        make params body ⟨tag, span, line, expand⟩ = make params body ⟨tag, span, line, expand'⟩
  | inline make => ∀ params tag span line expand expand',
      make params ⟨tag, span, line, expand⟩ = make params ⟨tag, span, line, expand'⟩

/-- Built-in handlers expand nothing. -/
theorem BuiltIn.expandsBody {s : Shortcode} (hs : BuiltIn s) : s.handler.ExpandsBody := by
  cases hs with
  | hint kind => exact fun _ _ _ _ _ _ _ _ => rfl
  | blueprint address => exact fun _ _ _ _ _ _ => rfl
  | versionGate => exact fun _ _ _ _ _ _ _ _ => rfl

/-- No node becomes more than one. -/
theorem length_expandBefore_le (n : Node) (after : Expansion) :
    (expandBefore r source inner n after).nodes.length ≤ after.nodes.length + 1 := by
  obtain ⟨f, -, hbecomes, hexpand⟩ := @exists_fate r inner source n after
  rw [hexpand]
  cases hbecomes with
  | content _ => exact Nat.le_refl _
  | unclosed _ _ _ _ => exact Nat.le_refl _
  | inline _ _ _ _ _ => exact Nat.le_refl _
  | block call closing rest _ _ hafter _ _ _ =>
    have := congrArg List.length hafter
    simp only [List.length_append, List.length_cons] at this
    simp only [Fate.expansion, List.length_cons]
    omega

theorem length_expandFromRight_le (nodes : List Node) :
    (expandFromRight r source inner nodes).nodes.length ≤ nodes.length := by
  induction nodes with
  | nil => exact Nat.le_refl 0
  | cons n rest ih => exact Nat.le_trans (length_expandBefore_le n _) (Nat.succ_le_succ ih)

variable {inner' : List Node → Expansion}

/-- What a node becomes depends on the expansion of lists no longer than the one behind it. -/
theorem expandBefore_congr (hr : ∀ s ∈ r.shortcodes, s.handler.ExpandsBody) (n : Node)
    (after : Expansion)
    (h : ∀ nodes : List Node, nodes.length ≤ after.nodes.length → inner nodes = inner' nodes) :
    expandBefore r source inner n after = expandBefore r source inner' n after := by
  cases hn : r.recognize? n with
  | none => rw [expandBefore_none _ hn, expandBefore_none _ hn]
  | some d =>
    have hs := hr _ (Registry.mem_of_recognize? hn)
    cases hmake : d.shortcode.handler with
    | inline make =>
      rw [hmake] at hs
      rw [expandBefore_inline _ hn hmake, expandBefore_inline _ hn hmake,
        hs d.params _ _ _ inner inner']
    | block make =>
      rw [hmake] at hs
      cases hdrop : after.nodes.dropWhile (!closes d.shortcode.name ·) with
      | nil =>
        rw [expandBefore_unterminated _ hn hmake hdrop, expandBefore_unterminated _ hn hmake hdrop]
      | cons closing rest =>
        rw [expandBefore_block _ hn hmake hdrop, expandBefore_block _ hn hmake hdrop]
        dsimp only
        rw [hs d.params _ _ _ _ inner inner' fun nodes hnodes => h nodes
          (Nat.le_trans hnodes (List.takeWhile_sublist _).length_le)]

/-- What nodes become depends on the expansion of shorter lists. -/
theorem expandFromRight_congr (hr : ∀ s ∈ r.shortcodes, s.handler.ExpandsBody) :
    ∀ {nodes : List Node}, (∀ ms : List Node, ms.length < nodes.length → inner ms = inner' ms) →
      expandFromRight r source inner nodes = expandFromRight r source inner' nodes
  | [], _ => rfl
  | n :: rest, h => by
    have ih : expandFromRight r source inner rest = expandFromRight r source inner' rest :=
      expandFromRight_congr hr fun ms hms => h ms (Nat.lt_succ_of_lt hms)
    rw [expandFromRight, expandFromRight, ih]
    refine expandBefore_congr hr n _ fun ms hms => h ms (Nat.lt_succ_of_le ?_)
    exact Nat.le_trans hms (length_expandFromRight_le rest)

/-- So do the openings without an end. -/
theorem unclosedIn_congr (hr : ∀ s ∈ r.shortcodes, s.handler.ExpandsBody) :
    ∀ {nodes : List Node}, (∀ ms : List Node, ms.length < nodes.length → inner ms = inner' ms) →
      unclosedIn r source inner nodes = unclosedIn r source inner' nodes
  | [], _ => rfl
  | n :: rest, h => by
    have hrest : ∀ ms : List Node, ms.length < rest.length → inner ms = inner' ms :=
      fun ms hms => h ms (Nat.lt_succ_of_lt hms)
    have ih : unclosedIn r source inner rest = unclosedIn r source inner' rest :=
      unclosedIn_congr hr hrest
    have hsame : expandFromRight r source inner rest = expandFromRight r source inner' rest :=
      expandFromRight_congr hr hrest
    have hfate : ∀ after, (fate r source inner n after).unclosed? =
        (fate r source inner' n after).unclosed? := by
      intro after
      unfold fate
      split
      · rfl
      · dsimp only
        split
        · rfl
        · split <;> rfl
    unfold unclosedIn at ih ⊢
    rw [fates, fates, List.filterMap_cons, List.filterMap_cons, ih, hsame, hfate]

/-! ## 2. Levels -/

theorem length_le_countAll (nodes : List Node) : nodes.length ≤ Node.countAll nodes := by
  induction nodes with
  | nil => exact Nat.le_refl 0
  | cons n rest ih =>
    obtain ⟨kind, children, span⟩ := n
    simp only [Node.countAll, Node.count, List.length_cons]
    omega

/-- Two numbers of levels, both greater than that of nodes, give the same. -/
theorem expandWithin_of_length_lt (hr : ∀ s ∈ r.shortcodes, s.handler.ExpandsBody) :
    ∀ {levels levels' : Nat} {nodes : List Node}, nodes.length < levels → nodes.length < levels' →
      expandWithin r source levels nodes = expandWithin r source levels' nodes
  | levels + 1, levels' + 1, nodes, h, h' => by
    rw [expandWithin, expandWithin, expandBy_eq_expandFromRight, expandBy_eq_expandFromRight]
    refine expandFromRight_congr hr fun ms hms => ?_
    exact expandWithin_of_length_lt hr (Nat.lt_of_lt_of_le hms (Nat.le_of_lt_succ h))
      (Nat.lt_of_lt_of_le hms (Nat.le_of_lt_succ h'))

/-- **Levels do not matter** as long as there are more of them than nodes. -/
theorem expandWithin_of_le (hr : ∀ s ∈ r.shortcodes, s.handler.ExpandsBody) {levels : Nat}
    {nodes : List Node} (h : nodes.length + 1 ≤ levels) :
    expandWithin r source levels nodes = r.expand source nodes :=
  expandWithin_of_length_lt hr h (Nat.lt_succ_of_le (length_le_countAll nodes))

/-- Handlers expand shorter lists as the registry does. -/
theorem expandWithin_countAll (hr : ∀ s ∈ r.shortcodes, s.handler.ExpandsBody)
    {nodes ms : List Node} (h : ms.length < nodes.length) :
    expandWithin r source (Node.countAll nodes) ms = r.expand source ms :=
  expandWithin_of_le hr (Nat.le_trans h (length_le_countAll nodes))

/-- **Handlers that expand call the registry back.** -/
theorem Registry.expand_eq_expandFromRight_expand (hr : ∀ s ∈ r.shortcodes, s.handler.ExpandsBody)
    (nodes : List Node) :
    r.expand source nodes = expandFromRight r source (r.expand source) nodes := by
  rw [Registry.expand_eq_expandFromRight]
  exact expandFromRight_congr hr fun ms hms => expandWithin_countAll hr hms

end Levels

end WikiPage.Shortcode
