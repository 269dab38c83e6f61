import WikiPage.Proofs.ExpansionLevels
/-!
# Expanding twice

What is left of an expansion are nodes that open nothing and openings of blocks that nothing behind
them closes.  Nodes of this form are settled: to expand them again calls no handler and changes
nothing.  An opening without an end may be taken into a block later on, and a closing marker may
be used up in front of another opening; neither of these gives an opening an end that had none.

* `Settled` says it of a list, and holds of every part of one in a row
  (`settled_of_append_left`, `settled_of_append_right`).
* `expandFromRight_of_settled`: settled nodes stay as they are; `calls_of_settled`: no handler is
  called for them.
* `settled_expandBefore` is the step and `settled_expandFromRight` the run, for handlers that make
  no openings; `settled_body`: what a block takes is settled too.
* `expand_settles` puts these together, for everything that handlers may expand by.
-/

namespace WikiPage.Shortcode

/-! ## 1. Settled nodes -/

/-- Whether the nodes of a list open nothing but blocks that nothing behind them closes. -/
def Settled (r : Registry) : List Node → Prop
  | [] => True
  | n :: rest =>
    (∀ d, r.recognize? n = some d → d.shortcode.handler.isBlock = true ∧
      ∀ m ∈ rest, closes d.shortcode.name m = false) ∧ Settled r rest

section Settled

variable {r : Registry} {source : Option String} {inner : List Node → Expansion}

theorem settled_of_append_left : ∀ {a b : List Node}, Settled r (a ++ b) → Settled r a
  | [], _, _ => trivial
  | _ :: _, _, h => by
    refine ⟨fun d hd => ?_, settled_of_append_left h.2⟩
    obtain ⟨hblock, hrest⟩ := h.1 d hd
    exact ⟨hblock, fun m hm => hrest m (List.mem_append_left _ hm)⟩

theorem settled_of_append_right : ∀ {a b : List Node}, Settled r (a ++ b) → Settled r b
  | [], _, h => h
  | _ :: _, _, h => settled_of_append_right h.2

/-- A node that opens nothing may stand in front of settled nodes. -/
theorem settled_cons {n : Node} {rest : List Node} (hn : r.recognize? n = none)
    (h : Settled r rest) : Settled r (n :: rest) := by
  refine ⟨fun d hd => ?_, h⟩
  rw [hn] at hd
  cases hd

/-- The fate of the first of settled nodes is to stay. -/
theorem not_replaced_of_settled_cons {n : Node} {rest : List Node} (h : Settled r (n :: rest))
    (call : Call) (left : List Node) : fate r source inner n rest ≠ .replaced call left := by
  intro heq
  have hbecomes := @becomes_fate r source inner n rest
  rw [heq] at hbecomes
  cases hbecomes with
  | inline _ hn hinline _ _ =>
    rw [(h.1 _ hn).1] at hinline
    cases hinline
  | block _ closing _ hn _ hrest hclosing _ _ =>
    have hmem : closing ∈ rest := by
      rw [hrest]
      exact List.mem_append_right _ List.mem_cons_self
    rw [(h.1 _ hn).2 closing hmem] at hclosing
    cases hclosing

/-! ## 2. Settled nodes are expanded already -/

/-- **Settled nodes stay as they are.** -/
theorem expandFromRight_of_settled : ∀ {nodes : List Node}, Settled r nodes →
    (expandFromRight r source inner nodes).nodes = nodes
  | [], _ => rfl
  | n :: rest, h => by
    have ih : (expandFromRight r source inner rest).nodes = rest :=
      expandFromRight_of_settled h.2
    obtain ⟨f, hf, -, hexpand⟩ :=
      @exists_fate r inner source n (expandFromRight r source inner rest)
    rw [ih] at hf
    rw [expandFromRight, hexpand]
    cases f with
    | content => exact congrArg (n :: ·) ih
    | unclosed d => exact congrArg (n :: ·) ih
    | replaced call left => exact absurd hf (not_replaced_of_settled_cons h call left)

/-- **No handler is called for settled nodes.** -/
theorem calls_of_settled : ∀ {nodes : List Node}, Settled r nodes →
    calls r source inner nodes = []
  | [], _ => rfl
  | n :: rest, h => by
    have ih : calls r source inner rest = [] := calls_of_settled h.2
    have hfirst := @not_replaced_of_settled_cons r source inner n rest h
    unfold calls at ih ⊢
    rw [fates, expandFromRight_of_settled h.2]
    cases hf : fate r source inner n rest with
    | content => exact ih
    | unclosed d => exact ih
    | replaced call left => exact absurd hf (hfirst call left)

/-- So it does not matter what handlers would expand by; the warnings are the same too. -/
theorem expandFromRight_congr_of_settled (inner' : List Node → Expansion) :
    ∀ {nodes : List Node}, Settled r nodes →
      expandFromRight r source inner nodes = expandFromRight r source inner' nodes
  | [], _ => rfl
  | n :: rest, h => by
    have ih := @expandFromRight_congr_of_settled inner' rest h.2
    have hrest : (expandFromRight r source inner' rest).nodes = rest :=
      expandFromRight_of_settled h.2
    rw [expandFromRight, expandFromRight, ih]
    cases hn : r.recognize? n with
    | none => rw [expandBefore_none _ hn, expandBefore_none _ hn]
    | some d =>
      obtain ⟨hblock, hopen⟩ := h.1 d hn
      cases hmake : d.shortcode.handler with
      | inline make =>
        rw [hmake] at hblock
        cases hblock
      | block make =>
        have hdrop : (expandFromRight r source inner' rest).nodes.dropWhile
            (!closes d.shortcode.name ·) = [] := by
          rw [hrest]
          exact List.dropWhile_eq_nil_iff.2 fun m hm => by simp [hopen m hm]
        rw [expandBefore_unterminated _ hn hmake hdrop, expandBefore_unterminated _ hn hmake hdrop]

/-! ## 3. Expanded nodes are settled -/

/-- Whether no handler of a registry makes a node that opens a registered shortcode. -/
def Registry.MakesNoOpening (r : Registry) : Prop :=
  ∀ s ∈ r.shortcodes, s.handler.Makes (r.recognize? · = none)

@[simp] theorem Registry.recognize?_withFallbackSpan (r : Registry) (n : Node)
    (span : Option Span) : r.recognize? (n.withFallbackSpan span) = r.recognize? n := by
  unfold Node.withFallbackSpan
  split <;> rfl

/-- What stands in the place of markers opens nothing. -/
theorem recognize?_node (hr : r.MakesNoOpening) {n : Node} {call : Call}
    (hn : r.recognize? n = some call.directive) : r.recognize? call.node = none := by
  rw [Call.node, Registry.recognize?_withFallbackSpan]
  exact made_of_makes hr hn

/-- **One node more** in front of settled nodes gives settled nodes. -/
theorem settled_expandBefore (hr : r.MakesNoOpening) (n : Node) {after : Expansion}
    (h : Settled r after.nodes) : Settled r (expandBefore r source inner n after).nodes := by
  obtain ⟨f, -, hbecomes, hexpand⟩ := @exists_fate r inner source n after
  rw [hexpand]
  cases hbecomes with
  | content hn => exact settled_cons hn h
  | unclosed d hn hblock hafter =>
    refine ⟨fun d' hd' => ?_, h⟩
    rw [hn] at hd'
    cases hd'
    exact ⟨hblock, hafter⟩
  | inline call hn _ _ _ => exact settled_cons (recognize?_node hr hn) h
  | block call closing rest hn _ hafter _ _ _ =>
    rw [hafter] at h
    exact settled_cons (recognize?_node hr hn) (settled_of_append_right h).2

/-- **Expanded nodes are settled.** -/
theorem settled_expandFromRight (hr : r.MakesNoOpening) (nodes : List Node) :
    Settled r (expandFromRight r source inner nodes).nodes := by
  induction nodes with
  | nil => trivial
  | cons n rest ih => exact settled_expandBefore hr n ih

/-- **What a block takes is settled**, and its handler expands as all of them do. -/
theorem settled_body (hr : r.MakesNoOpening) {call : Call} {left : List Node} :
    ∀ {nodes : List Node}, .replaced call left ∈ fates r source inner nodes →
      Settled r call.body ∧ call.context.expand = inner
  | n :: rest, hmem => by
    rcases List.mem_cons.1 hmem with heq | hmem
    · have hafter : Settled r (expandFromRight r source inner rest).nodes :=
        settled_expandFromRight hr rest
      have hbecomes := @becomes_fate r source inner n (expandFromRight r source inner rest).nodes
      rw [← heq] at hbecomes
      cases hbecomes with
      | inline _ _ _ hbody hexpand =>
        rw [hbody]
        exact ⟨trivial, hexpand⟩
      | block _ closing _ _ _ hsplit _ _ hexpand =>
        rw [hsplit] at hafter
        exact ⟨settled_of_append_left hafter, hexpand⟩
    · exact settled_body hr hmem

/-- Settled nodes are expanded the same at every number of levels but none. -/
theorem expandWithin_of_settled {nodes : List Node} (h : Settled r nodes) (levels : Nat) :
    expandWithin r source (levels + 1) nodes = r.expand source nodes := by
  rw [Registry.expand_eq_expandFromRight]
  exact (expandBy_eq_expandFromRight nodes).trans (expandFromRight_congr_of_settled _ h)

end Settled

theorem countAll_cons_pos (n : Node) (rest : List Node) : 0 < Node.countAll (n :: rest) :=
  Nat.lt_of_lt_of_le (Nat.succ_pos _) (length_le_countAll (n :: rest))

/-- Where a handler is called, there is a node to count. -/
theorem countAll_pos_of_mem_calls {r : Registry} {source : Option String}
    {inner : List Node → Expansion} {call : Call} : ∀ {nodes : List Node},
      call ∈ calls r source inner nodes → 0 < Node.countAll nodes
  | [], h => absurd h List.not_mem_nil
  | n :: rest, _ => countAll_cons_pos n rest

section Twice

variable {r : Registry} {source : Option String} {inner : List Node → Expansion}

/-- Expanding again changes nothing, whatever handlers expand by. -/
theorem expandBy_expandBy (hr : r.MakesNoOpening) (inner' : List Node → Expansion)
    (nodes : List Node) :
    (expandBy r source inner' (expandBy r source inner nodes).nodes).nodes =
      (expandBy r source inner nodes).nodes := by
  rw [expandBy_eq_expandFromRight, expandBy_eq_expandFromRight]
  exact expandFromRight_of_settled (settled_expandFromRight hr nodes)

/-- What the call of a handler gives it is settled. -/
theorem settled_of_mem_calls (hr : r.MakesNoOpening) {call : Call} {nodes : List Node}
    (hcall : call ∈ calls r source inner nodes) :
    Settled r call.body ∧ call.context.expand = inner := by
  obtain ⟨left, hfate⟩ := mem_calls_iff.1 hcall
  exact settled_body hr hfate

end Twice

/-- **Expanding again changes nothing**, when no handler makes an opening of a registered shortcode.
Every call of a handler, of which the expansion is made, gives it nodes that are expanded already:
if the handler expands them it gets them back as they are, with the warnings that they give anyway,
and no handler is called for them.  This holds whatever handlers expand by, so at every number of
levels, and what they get back does not depend on it. -/
theorem expand_settles (r : Registry) (hr : r.MakesNoOpening) (source : Option String)
    (nodes : List Node) :
    (∀ inner,
      (∀ inner', (expandBy r source inner' (expandBy r source inner nodes).nodes).nodes =
        (expandBy r source inner nodes).nodes) ∧
      expandBy r source inner nodes = carryOut source nodes (fates r source inner nodes) ∧
      ∀ call ∈ calls r source inner nodes, call.context.expand = inner ∧
        ∀ inner', (expandBy r source inner' call.body).nodes = call.body ∧
          expandBy r source inner' call.body = r.expand source call.body ∧
          calls r source inner' call.body = []) ∧
    let within := expandWithin r source (Node.countAll nodes)
    (r.expand source (r.expand source nodes).nodes).nodes = (r.expand source nodes).nodes ∧
      r.expand source nodes = carryOut source nodes (fates r source within nodes) ∧
      ∀ call ∈ calls r source within nodes,
        (r.expand source call.body).nodes = call.body ∧
          call.context.expand call.body = r.expand source call.body ∧
          ∀ inner, calls r source inner call.body = [] := by
  have hinner : ∀ inner, expandBy r source inner nodes =
      carryOut source nodes (fates r source inner nodes) := fun inner =>
    (expandBy_eq_expandFromRight nodes).trans (expandFromRight_eq_carryOut nodes)
  refine ⟨fun inner => ⟨fun inner' => expandBy_expandBy hr inner' nodes, hinner inner,
    fun call hcall => ?_⟩, ?_⟩
  · obtain ⟨hsettled, hexpand⟩ := settled_of_mem_calls hr hcall
    refine ⟨hexpand, fun inner' => ⟨?_, ?_, calls_of_settled hsettled⟩⟩
    · rw [expandBy_eq_expandFromRight]
      exact expandFromRight_of_settled hsettled
    · rw [Registry.expand_eq_expandFromRight, expandBy_eq_expandFromRight]
      exact expandFromRight_congr_of_settled _ hsettled
  · intro within
    refine ⟨expandBy_expandBy hr _ nodes, hinner within, fun call hcall => ?_⟩
    obtain ⟨hsettled, hexpand⟩ := settled_of_mem_calls hr hcall
    obtain ⟨levels, hlevels⟩ : ∃ levels, Node.countAll nodes = levels + 1 :=
      Nat.exists_eq_succ_of_ne_zero (Nat.ne_of_gt (countAll_pos_of_mem_calls hcall))
    refine ⟨?_, ?_, fun inner => calls_of_settled hsettled⟩
    · rw [Registry.expand_eq_expandFromRight]
      exact expandFromRight_of_settled hsettled
    · rw [hexpand, show within = expandWithin r source (levels + 1) by rw [← hlevels]]
      exact expandWithin_of_settled hsettled levels

/-- A block whose handler expands what stands in it. -/
def part : Shortcode where
  name := "part"
  handler := .block fun _ body ctx =>
    let within := ctx.expand body
    ((Node.element "section" Attributes.empty).withChildren within.nodes, within.warnings)

/-- Parts of a page, and tips. -/
def Registry.withParts : Registry := ⟨[part, hint "tip"], by decide⟩

/-- A part with the opening of a tip in it, and another one in front of it. -/
def openTips : List Node :=
  [markerOf "tip", markerOf "part", markerOf "tip", .paragraph [.text "a"], markerOf "/part"]

/-- The part takes an opening without an end, and its handler gets it back. -/
theorem expand_openTips : Registry.withParts.MakesNoOpening ∧
    (Registry.withParts.expand none (Registry.withParts.expand none openTips).nodes).nodes =
      [markerOf "tip", (Node.element "section" Attributes.empty).withChildren
        [markerOf "tip", .paragraph [.text "a"]]] ∧
    ∃ call ∈ calls .withParts none (expandWithin .withParts none (Node.countAll openTips)) openTips,
      call.body = [markerOf "tip", .paragraph [.text "a"]] ∧
      call.context.expand call.body =
        ⟨call.body, ["\x7b\x7btip\x7d\x7d has no matching \x7b\x7b/tip\x7d\x7d"]⟩ := by
  have hparts : Registry.withParts.MakesNoOpening := by
    intro s hs
    rcases List.mem_cons.1 hs with rfl | hs
    · exact fun _ _ _ => rfl
    · rw [List.mem_singleton.1 hs]
      exact fun _ _ _ => rfl
  obtain ⟨-, htwice, -, hcalls⟩ := expand_settles .withParts hparts none openTips
  have hbodies : (calls .withParts none (expandWithin .withParts none (Node.countAll openTips))
      openTips).map Call.body = [[markerOf "tip", .paragraph [.text "a"]]] := by decide +kernel
  obtain ⟨call, hcall, hbody⟩ := List.mem_map.1 (hbodies ▸ List.mem_singleton_self _)
  refine ⟨hparts, htwice.trans (by decide +kernel), call, hcall, hbody, ?_⟩
  rw [(hcalls call hcall).2.1, hbody]
  decide +kernel

end WikiPage.Shortcode
