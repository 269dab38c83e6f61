import WikiPage.Proofs.Standard
/-!
# What becomes of each node

Expansion looks at every node once, from the last to the first.  A node is content and stays, or it
opens a block that nothing closes and stays, or a handler is called for it.  This file reads an
expansion as the row of these fates.

* `Call` is a call of a handler: the marker, the nodes that a block takes, and what the handler is
  told.
* `expandBefore_eq_fate`: what a node becomes in front of expanded nodes is its fate, carried out.
* `fates` are the fates of the nodes of a list, in its order: `expandFromRight_eq_carryOut`.  The
  `calls` among them are what handlers are asked, and `unclosedIn` the openings without an end.
* `Becomes` says all that a fate can be and when, for every registry; `becomes_fate`.
* `Handler.Makes` says what handlers make, and `made_of_makes` that calls make nothing else.
-/

namespace WikiPage.Shortcode

/-! ## 1. Calls and fates -/

/-- A call of a handler. -/
structure Call where
  directive : Directive
  /-- The nodes that a block takes; an inline shortcode takes none. -/
  body : List Node
  context : Context

/-- What the handler makes, with its warnings. -/
def Call.made (c : Call) : Node × List String :=
  match c.directive.shortcode.handler with
  | .inline make => make c.directive.params c.context
  | .block make => make c.directive.params c.body c.context

/-- What stands in the place of the markers then. -/
def Call.node (c : Call) : Node := c.made.1.withFallbackSpan c.context.span

/-- What becomes of a node in front of expanded nodes. -/
inductive Fate where
  /-- It opens nothing, and stays. -/
  | content
  /-- It opens a block that nothing closes, and stays. -/
  | unclosed (d : Directive)
  /-- A handler is called; these nodes are left behind what it makes. -/
  | replaced (call : Call) (rest : List Node)

/-- The fate of a node in front of expanded nodes. -/
def fate (registry : Registry) (source : Option String) (inner : List Node → Expansion) (n : Node)
    (after : List Node) : Fate :=
  match registry.recognize? n with
  | none => .content
  | some d =>
    let tag := d.shortcode.name
    match d.shortcode.handler with
    | .inline _ => .replaced ⟨d, [], ⟨tag, n.span, lineOf? source n.span, inner⟩⟩ after
    | .block _ =>
      match after.dropWhile (!closes tag ·) with
      | [] => .unclosed d
      | closing :: rest =>
        let span := Span.merge? n.span closing.span
        .replaced ⟨d, after.takeWhile (!closes tag ·), ⟨tag, span, lineOf? source span, inner⟩⟩ rest

/-- A fate carried out. -/
def Fate.expansion (source : Option String) (n : Node) (after : Expansion) : Fate → Expansion
  | content => ⟨n :: after.nodes, after.warnings⟩
  | unclosed d =>
    ⟨n :: after.nodes,
      after.warnings ++ [unterminated (lineOf? source n.span) d.shortcode.name]⟩
  | replaced call rest => ⟨call.node :: rest, after.warnings ++ call.made.2⟩

/-- The fates of the nodes of a list, the nodes behind each of them being expanded. -/
def fates (registry : Registry) (source : Option String) (inner : List Node → Expansion) :
    List Node → List Fate
  | [] => []
  | n :: rest =>
    fate registry source inner n (expandFromRight registry source inner rest).nodes ::
      fates registry source inner rest

/-- Fates of nodes carried out, that of the last node first. -/
def carryOut (source : Option String) : List Node → List Fate → Expansion
  | n :: rest, f :: later => f.expansion source n (carryOut source rest later)
  | _, _ => ⟨[], []⟩

/-- The call of a handler that a fate is. -/
def Fate.call? : Fate → Option Call
  | replaced call _ => some call
  | _ => none

/-- The opening without an end that a fate is. -/
def Fate.unclosed? : Fate → Option Directive
  | unclosed d => some d
  | _ => none

/-- The calls of handlers for the nodes of a list, in the order of their markers. -/
def calls (registry : Registry) (source : Option String) (inner : List Node → Expansion)
    (nodes : List Node) : List Call :=
  (fates registry source inner nodes).filterMap Fate.call?

/-- The openings of blocks in a list that nothing closes when they are looked at. -/
def unclosedIn (registry : Registry) (source : Option String) (inner : List Node → Expansion)
    (nodes : List Node) : List Directive :=
  (fates registry source inner nodes).filterMap Fate.unclosed?

section Fates

variable {registry : Registry} {source : Option String} {inner : List Node → Expansion}

/-- **Expansion carries out fates**: a handler is called as its call says, and nothing else is put
in. -/
theorem expandBefore_eq_fate (n : Node) (after : Expansion) :
    expandBefore registry source inner n after =
      (fate registry source inner n after.nodes).expansion source n after := by
  unfold fate
  cases hn : registry.recognize? n with
  | none => exact expandBefore_none after hn
  | some d =>
    dsimp only
    cases hmake : d.shortcode.handler with
    | inline make =>
      rw [expandBefore_inline after hn hmake]
      simp only [Fate.expansion, Call.node, Call.made, hmake]
    | block make =>
      dsimp only
      cases hdrop : after.nodes.dropWhile (!closes d.shortcode.name ·) with
      | nil => exact expandBefore_unterminated after hn hmake hdrop
      | cons closing rest =>
        rw [expandBefore_block after hn hmake hdrop]
        simp only [Fate.expansion, Call.node, Call.made, hmake]

/-- **An expansion is the fates of its nodes, carried out.** -/
theorem expandFromRight_eq_carryOut (nodes : List Node) :
    expandFromRight registry source inner nodes =
      carryOut source nodes (fates registry source inner nodes) := by
  induction nodes with
  | nil => rfl
  | cons n rest ih => rw [expandFromRight, expandBefore_eq_fate, fates, carryOut, ← ih]

/-- A call is a fate. -/
theorem mem_calls_iff {call : Call} {nodes : List Node} :
    call ∈ calls registry source inner nodes ↔
      ∃ left, .replaced call left ∈ fates registry source inner nodes := by
  unfold calls
  rw [List.mem_filterMap]
  constructor
  · rintro ⟨f, hf, hcall⟩
    cases f with
    | replaced call' left =>
      cases hcall
      exact ⟨left, hf⟩
    | content => cases hcall
    | unclosed d => cases hcall
  · rintro ⟨left, hf⟩
    exact ⟨_, hf, rfl⟩

/-! ## 2. All that may become of a node -/

/-- What may become of a node in front of expanded nodes, when handlers expand by `inner`. -/
inductive Becomes (registry : Registry) (inner : List Node → Expansion) (n : Node)
    (after : List Node) : Fate → Prop where
  | content (hn : registry.recognize? n = none) : Becomes registry inner n after .content
  | unclosed (d : Directive) (hn : registry.recognize? n = some d)
      (hblock : d.shortcode.handler.isBlock = true)
      (hafter : ∀ m ∈ after, closes d.shortcode.name m = false) :
      Becomes registry inner n after (.unclosed d)
  | inline (call : Call) (hn : registry.recognize? n = some call.directive)
      (hinline : call.directive.shortcode.handler.isBlock = false) (hbody : call.body = [])
      (hexpand : call.context.expand = inner) :
      Becomes registry inner n after (.replaced call after)
  | block (call : Call) (closing : Node) (rest : List Node)
      (hn : registry.recognize? n = some call.directive)
      (hblock : call.directive.shortcode.handler.isBlock = true)
      (hafter : after = call.body ++ closing :: rest)
      (hclosing : closes call.directive.shortcode.name closing = true)
      (hbody : ∀ m ∈ call.body, closes call.directive.shortcode.name m = false)
      (hexpand : call.context.expand = inner) :
      Becomes registry inner n after (.replaced call rest)

/-- A fate is one of these. -/
theorem becomes_fate (n : Node) (after : List Node) :
    Becomes registry inner n after (fate registry source inner n after) := by
  unfold fate
  cases hn : registry.recognize? n with
  | none => exact .content hn
  | some d =>
    dsimp only
    cases hmake : d.shortcode.handler with
    | inline make => exact .inline _ hn (by rw [hmake]; rfl) rfl rfl
    | block make =>
      have hblock : d.shortcode.handler.isBlock = true := by rw [hmake]; rfl
      dsimp only
      cases hdrop : after.dropWhile (!closes d.shortcode.name ·) with
      | nil => exact .unclosed d hn hblock (no_closing hdrop)
      | cons closing rest =>
        obtain ⟨hafter, hclosing, hbody⟩ := nearest_closing hdrop
        exact .block _ closing rest hn hblock hafter hclosing hbody rfl

/-- **What becomes of a node**: its fate, what that may be, and the expansion that it gives. -/
theorem exists_fate (source : Option String) (n : Node) (after : Expansion) :
    ∃ f, fate registry source inner n after.nodes = f ∧ Becomes registry inner n after.nodes f ∧
      expandBefore registry source inner n after = f.expansion source n after :=
  ⟨_, rfl, becomes_fate n after.nodes, expandBefore_eq_fate n after⟩

/-! ## 3. What handlers make -/

/-- Whether everything that a handler makes has a property. -/
def Handler.Makes (P : Node → Prop) : Handler → Prop
  | block make => ∀ params body ctx, P (make params body ctx).1
  | inline make => ∀ params ctx, P (make params ctx).1

/-- What a call makes is made by a handler of the registry. -/
theorem made_of_makes {P : Node → Prop} (hr : ∀ s ∈ registry.shortcodes, s.handler.Makes P)
    {n : Node} {call : Call} (hn : registry.recognize? n = some call.directive) :
    P call.made.1 := by
  have hmakes := hr _ (Registry.mem_of_recognize? hn)
  unfold Call.made
  cases hmake : call.directive.shortcode.handler with
  | inline make =>
    rw [hmake] at hmakes
    exact hmakes _ _
  | block make =>
    rw [hmake] at hmakes
    exact hmakes _ _ _

end Fates

end WikiPage.Shortcode
