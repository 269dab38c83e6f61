import Mathlib.Data.List.Forall2
import WikiPage.Tree.Rewrite
/-!
# The calls of a rewriting rule

What a walk asks its rule, in order, told by what the walk gives in the end.

* `recorded` is a rule with a list of its calls, and `placed` are the nodes of a tree in document
  order, each with its place.
* `rewriteChildren_recorded` for the children of a node, `rewrite?_recorded` for a tree: recording
  changes nothing, and the calls are one for each node of the result, in document order; a walk that
  fails ends with the call that failed.
* `rewrite?_of_le`: a walk that comes to its end does not depend on the bound on levels.
* `rewrite?_ofTransform`: a rule that never fails is walked with as a transform.
* `rewrite?_calls` puts these together.
-/

namespace WikiPage

/-- A call of a rule: where, for which node and in which state, and what came of it. -/
structure RuleCall (σ ε : Type) where
  place : Place
  given : Node
  before : σ
  result : Except ε Node
  after : σ

/-- Whether a call gave a node. -/
def RuleCall.Succeeded {σ ε : Type} (c : RuleCall σ ε) : Prop := ∃ made, c.result = .ok made

namespace Node

variable {σ ε : Type}

/-! ## 1. Calls and places -/

/-- The rule with a list of its calls, to which each call is added at the end. -/
def recorded (rule : RewriteRule σ ε) : RewriteRule (σ × List (RuleCall σ ε)) ε :=
  fun place n (s, calls) =>
    let (result, after) := rule place n s
    (result, after, calls ++ [⟨place, n, s, result, after⟩])

mutual
/-- The nodes of a tree in document order, each with its place. -/
def placed (place : Place) : Node → List (Place × Node)
  | ⟨kind, children, span⟩ => (place, ⟨kind, children, span⟩) :: placedAll kind 0 children
/-- The nodes below a node, the first child having the given number. -/
def placedAll (parent : NodeKind) (index : Nat) : List Node → List (Place × Node)
  | [] => []
  | n :: rest => placed ⟨index, some parent⟩ n ++ placedAll parent (index + 1) rest
end

mutual
theorem map_snd_placed (place : Place) : ∀ n : Node, (n.placed place).map Prod.snd = n.preorder
  | ⟨kind, children, span⟩ => by
    rw [placed, preorder, List.map_cons, map_snd_placedAll kind 0 children]
theorem map_snd_placedAll (parent : NodeKind) (index : Nat) : ∀ ns : List Node,
    (placedAll parent index ns).map Prod.snd = preorderAll ns
  | [] => rfl
  | n :: rest => by
    rw [placedAll, preorderAll, List.map_append, map_snd_placed _ n,
      map_snd_placedAll parent (index + 1) rest]
end

/-- Whether a call was made at this place and gave a node of this kind and span. -/
def Gave (c : RuleCall σ ε) (found : Place × Node) : Prop :=
  c.place = found.1 ∧
    ∃ made, c.result = .ok made ∧ made.kind = found.2.kind ∧ made.span = found.2.span

/-- Whether the last of some calls failed, and no other. -/
def FailedLast (e : ε) (calls : List (RuleCall σ ε)) : Prop :=
  ∃ earlier last, calls = earlier ++ [last] ∧ last.result = .error e ∧
    ∀ c ∈ earlier, c.Succeeded

/-- What calls tell of a walk: the nodes that it gave with their places, or its error. -/
def Tells {α : Type} (found : α → List (Place × Node)) (calls : List (RuleCall σ ε)) :
    Except ε α → Prop
  | .ok out => List.Forall₂ Gave calls (found out)
  | .error e => FailedLast e calls

theorem succeeded_of_gave {calls : List (RuleCall σ ε)} {found : List (Place × Node)}
    (h : List.Forall₂ Gave calls found) : ∀ c ∈ calls, c.Succeeded := by
  induction h with
  | nil => exact fun _ hc => absurd hc List.not_mem_nil
  | cons hgave _ ih =>
    obtain ⟨-, made, hmade, -⟩ := hgave
    exact List.forall_mem_cons.2 ⟨⟨made, hmade⟩, ih⟩

/-- Calls of which none failed may come before those that tell of a walk, when the walk is a part
of a larger one. -/
theorem Tells.after {α β : Type} {found : α → List (Place × Node)} {more : β → List (Place × Node)}
    {join : β → α} {calls later : List (RuleCall σ ε)} {result : Except ε β}
    (hok : ∀ c ∈ calls, c.Succeeded) (h : Tells more later result)
    (hfound : ∀ out, List.Forall₂ Gave later (more out) →
      List.Forall₂ Gave (calls ++ later) (found (join out))) :
    Tells found (calls ++ later) (result.map join) := by
  cases result with
  | ok out => exact hfound out h
  | error e =>
    obtain ⟨earlier, last, rfl, hlast, hearlier⟩ := h
    exact ⟨calls ++ earlier, last, (List.append_assoc ..).symm, hlast,
      List.forall_mem_append.2 ⟨hok, hearlier⟩⟩

/-! ## 2. One step of a walk -/

/-- Children are visited when the first of them fails, or is visited and then the others are. -/
theorem rewriteChildren_cons_eq_some {visit : Place → Node → σ → Option (Except ε Node × σ)}
    {parent : NodeKind} {index : Nat} {n : Node} {rest : List Node} {s after : σ}
    {result : Except ε (List Node)} :
    rewriteChildren visit parent index (n :: rest) s = some (result, after) ↔
      (∃ e, visit ⟨index, some parent⟩ n s = some (.error e, after) ∧ .error e = result) ∨
        ∃ child next others, visit ⟨index, some parent⟩ n s = some (.ok child, next) ∧
          rewriteChildren visit parent (index + 1) rest next = some (others, after) ∧
          others.map (child :: ·) = result := by
  rw [rewriteChildren]
  rcases visit ⟨index, some parent⟩ n s with _ | ⟨e | child, next⟩
  · simp
  · simp [and_comm]
  · rcases hothers : rewriteChildren visit parent (index + 1) rest next with
      _ | ⟨e | others, last⟩ <;>
      simp [hothers, Except.map, and_comm]

/-- A tree is walked through when the rule fails for it, or changes it and its children are visited
then. -/
theorem rewrite?_eq_some {rule : RewriteRule σ ε} {levels : Nat} {place : Place} {n : Node}
    {s after : σ} {result : Except ε Node} :
    rewrite? rule (levels + 1) place n s = some (result, after) ↔
      (∃ e, rule place n s = (.error e, after) ∧ .error e = result) ∨
        ∃ made next children, rule place n s = (.ok made, next) ∧
          rewriteChildren (rewrite? rule levels) made.kind 0 made.children next =
            some (children, after) ∧
          children.map made.withChildren = result := by
  rw [rewrite?]
  rcases rule place n s with ⟨e | made, next⟩
  · simp [and_comm]
  · rcases hchildren : rewriteChildren (rewrite? rule levels) made.kind 0 made.children next with
      _ | ⟨e | children, last⟩ <;>
      simp [hchildren, Except.map, and_comm]

/-! ## 3. Walks with their calls -/

/-- Whether one visit is another one with its calls added to those before, and these tell of it. -/
def Records (visit : Place → Node → σ → Option (Except ε Node × σ))
    (record : Place → Node → σ × List (RuleCall σ ε) →
      Option (Except ε Node × σ × List (RuleCall σ ε))) : Prop :=
  ∀ {place n s result after}, visit place n s = some (result, after) → ∀ earlier, ∃ calls,
    record place n (s, earlier) = some (result, after, earlier ++ calls) ∧
      Tells (placed place) calls result

/-- **The children of a node** are visited one after the other, up to the first that fails. -/
theorem rewriteChildren_recorded {visit : Place → Node → σ → Option (Except ε Node × σ)}
    {record : Place → Node → σ × List (RuleCall σ ε) →
      Option (Except ε Node × σ × List (RuleCall σ ε))} (hvisit : Records visit record)
    (parent : NodeKind) {ns : List Node} {index : Nat} {s after : σ}
    {result : Except ε (List Node)}
    (h : rewriteChildren visit parent index ns s = some (result, after))
    (earlier : List (RuleCall σ ε)) : ∃ calls,
      rewriteChildren record parent index ns (s, earlier) =
          some (result, after, earlier ++ calls) ∧
        Tells (placedAll parent index) calls result := by
  induction ns generalizing index s result earlier with
  | nil =>
    cases h
    exact ⟨[], by rw [rewriteChildren, List.append_nil], .nil⟩
  | cons n rest ih =>
    obtain ⟨e, hfirst, rfl⟩ | ⟨child, next, others, hfirst, hothers, rfl⟩ :=
      rewriteChildren_cons_eq_some.1 h
    · obtain ⟨calls, hrecord, htells⟩ := hvisit hfirst earlier
      exact ⟨calls, rewriteChildren_cons_eq_some.2 (.inl ⟨e, hrecord, rfl⟩), htells⟩
    · obtain ⟨calls, hrecord, htells⟩ := hvisit hfirst earlier
      obtain ⟨more, hmore, htell⟩ := ih hothers (earlier ++ calls)
      rw [List.append_assoc] at hmore
      refine ⟨calls ++ more, rewriteChildren_cons_eq_some.2 ?_, ?_⟩
      · exact .inr ⟨child, _, others, hrecord, hmore, rfl⟩
      · exact htell.after (succeeded_of_gave htells) fun _ hout => List.rel_append htells hout

/-- **A tree** is walked through with its calls recorded as it is without. -/
theorem rewrite?_recorded (rule : RewriteRule σ ε) (levels : Nat) :
    Records (rewrite? rule levels) (rewrite? (recorded rule) levels) := by
  induction levels with
  | zero =>
    intro place n s result after h
    cases h
  | succ levels ih =>
    intro place n s result after h earlier
    obtain ⟨e, hrule, rfl⟩ | ⟨made, next, children, hrule, hchildren, rfl⟩ := rewrite?_eq_some.1 h
    · refine ⟨[⟨place, n, s, .error e, after⟩], rewrite?_eq_some.2 (.inl ⟨e, ?_, rfl⟩), ?_⟩
      · simp only [recorded, hrule]
      · exact ⟨[], _, rfl, rfl, fun _ hc => absurd hc List.not_mem_nil⟩
    · let call : RuleCall σ ε := ⟨place, n, s, .ok made, next⟩
      obtain ⟨calls, hrecord, htells⟩ :=
        rewriteChildren_recorded ih made.kind hchildren (earlier ++ [call])
      rw [List.append_assoc] at hrecord
      refine ⟨call :: calls, rewrite?_eq_some.2 (.inr ⟨made, _, children, ?_, hrecord, rfl⟩), ?_⟩
      · simp only [recorded, hrule, call]
      · -- the node that the rule gave keeps its kind and span when its children are put in
        have hgave (out : List Node) : Gave call (place, made.withChildren out) :=
          ⟨rfl, made, rfl, rfl, rfl⟩
        show Tells (placed place) ([call] ++ calls) (children.map made.withChildren)
        refine htells.after (List.forall_mem_singleton.2 ⟨made, rfl⟩) fun out hout => ?_
        exact .cons (hgave out) hout

/-! ## 4. The bound on levels -/

theorem rewriteChildren_of_visit {visit visit' : Place → Node → σ → Option (Except ε Node × σ)}
    (hvisit : ∀ {place n s r}, visit place n s = some r → visit' place n s = some r)
    {parent : NodeKind} {ns : List Node} {index : Nat} {s after : σ}
    {result : Except ε (List Node)}
    (h : rewriteChildren visit parent index ns s = some (result, after)) :
    rewriteChildren visit' parent index ns s = some (result, after) := by
  induction ns generalizing index s result with
  | nil => exact h
  | cons n rest ih =>
    refine rewriteChildren_cons_eq_some.2 ((rewriteChildren_cons_eq_some.1 h).imp ?_ ?_)
    · rintro ⟨e, hfirst, rfl⟩
      exact ⟨e, hvisit hfirst, rfl⟩
    · rintro ⟨child, next, others, hfirst, hothers, rfl⟩
      exact ⟨child, next, others, hvisit hfirst, ih hothers, rfl⟩

/-- **A walk that came to its end** is the same with any greater bound. -/
theorem rewrite?_of_le {rule : RewriteRule σ ε} {levels more : Nat} (hle : levels ≤ more)
    {place : Place} {n : Node} {s : σ} {r : Except ε Node × σ}
    (h : rewrite? rule levels place n s = some r) : rewrite? rule more place n s = some r := by
  induction levels generalizing more place n s r with
  | zero => cases h
  | succ levels ih =>
    obtain ⟨more, rfl⟩ : ∃ m, more = m + 1 := Nat.exists_eq_add_one.2 (by omega)
    have hvisit {place n s r} (h : rewrite? rule levels place n s = some r) :
        rewrite? rule more place n s = some r :=
      ih (Nat.le_of_succ_le_succ hle) h
    refine rewrite?_eq_some.2 ((rewrite?_eq_some.1 h).imp id ?_)
    rintro ⟨made, next, children, hrule, hchildren, hresult⟩
    exact ⟨made, next, children, hrule, rewriteChildren_of_visit hvisit hchildren, hresult⟩

/-! ## 5. Transforms that never fail -/

section Errors

variable {ε' : Type} {translate : ε → ε'}

/-- What a walk gave, with its error put in other words. -/
def translated {α : Type} (translate : ε → ε') (r : Except ε α × σ) : Except ε' α × σ :=
  (r.1.mapError translate, r.2)

theorem rewriteChildren_translated {visit : Place → Node → σ → Option (Except ε Node × σ)}
    {visit' : Place → Node → σ → Option (Except ε' Node × σ)}
    (hvisit : ∀ place n s, visit' place n s = (visit place n s).map (translated translate))
    (parent : NodeKind) (index : Nat) (ns : List Node) (s : σ) :
    rewriteChildren visit' parent index ns s =
      (rewriteChildren visit parent index ns s).map (translated translate) := by
  induction ns generalizing index s with
  | nil => rfl
  | cons n rest ih =>
    simp only [rewriteChildren, hvisit, ih]
    rcases visit ⟨index, some parent⟩ n s with _ | ⟨e | child, next⟩
    · rfl
    · rfl
    · simp only [Option.map_some, translated, Except.mapError]
      rcases rewriteChildren visit parent (index + 1) rest next with _ | ⟨e | others, last⟩ <;> rfl

/-- A walk does nothing with an error but hand it on. -/
theorem rewrite?_translated {rule : RewriteRule σ ε} {rule' : RewriteRule σ ε'}
    (hrule : ∀ place n s, rule' place n s = translated translate (rule place n s)) (levels : Nat)
    (place : Place) (n : Node) (s : σ) :
    rewrite? rule' levels place n s =
      (rewrite? rule levels place n s).map (translated translate) := by
  induction levels generalizing place n s with
  | zero => rfl
  | succ levels ih =>
    simp only [rewrite?, hrule, rewriteChildren_translated ih]
    rcases rule place n s with ⟨e | made, next⟩
    · rfl
    · simp only [translated, Except.mapError]
      rcases rewriteChildren (rewrite? rule levels) made.kind 0 made.children next with
        _ | ⟨e | children, last⟩ <;> rfl

end Errors

/-- **A transform that never fails** is walked with in the same way, whatever errors there are. -/
theorem rewrite?_ofTransform (transform : Place → Node → σ → Node × σ) (levels : Nat)
    (place : Place) (n : Node) (s : σ) :
    rewrite? (ε := ε) (ofTransform transform) levels place n s =
      (map? transform levels place n s).map fun r => (.ok r.1, r.2) := by
  have hrule (place : Place) (n : Node) (s : σ) : ofTransform (ε := ε) transform place n s =
      translated Empty.elim (ofTransform transform place n s) := rfl
  rw [rewrite?_translated hrule, map?]
  rcases rewrite? (ofTransform transform) levels place n s with _ | ⟨e | out, after⟩
  · rfl
  · exact e.elim
  · rfl

/-! ## 6. All calls of a walk -/

/-- **The calls of a rule**, for every tree and every rule for which the walk comes to its end.
Recording them changes nothing, and neither does a greater bound on levels.  If the walk gives a
tree, there is one call for each of its nodes, in document order: it was made at the place that the
node has in that tree, and gave a node of that kind and span.  If the walk fails, then with the error
of the last call, and none of the calls before failed.  A transform that never fails is the rule that
never fails, whatever errors others have. -/
theorem rewrite?_calls (rule : RewriteRule σ ε) {levels : Nat} {tree : Node} {s after : σ}
    {result : Except ε Node} (h : tree.rewrite? rule levels .top s = some (result, after)) :
    (∃ calls, (∀ more, levels ≤ more →
        tree.rewrite? (recorded rule) more .top (s, []) = some (result, after, calls)) ∧
      (∀ out, result = .ok out → calls.length = out.count ∧
        (out.placed .top).map Prod.snd = out.preorder ∧
        List.Forall₂ Gave calls (out.placed .top)) ∧
      ∀ e, result = .error e → FailedLast e calls) ∧
    ∀ transform more place n, rewrite? (ε := ε) (ofTransform transform) more place n s =
      (map? transform more place n s).map fun r => (.ok r.1, r.2) := by
  obtain ⟨calls, hcalls, htells⟩ := rewrite?_recorded rule levels h []
  refine ⟨⟨calls, fun more hle => rewrite?_of_le hle hcalls, ?_, ?_⟩, ?_⟩
  · rintro out rfl
    refine ⟨?_, map_snd_placed .top out, htells⟩
    rw [htells.length_eq, ← length_preorder, ← map_snd_placed .top out, List.length_map]
  · rintro e rfl
    exact htells
  · exact fun transform more place n => rewrite?_ofTransform transform more place n s

/-- A rule that counts its calls, puts what a paragraph holds into a quotation behind a text, and
fails for one text. -/
def quoting (refused : String) : RewriteRule Nat String := fun _ n calls =>
  if n.textValue = some refused then (.error refused, calls + 1)
  else if n.isParagraph then
    (.ok ⟨.blockQuote none, .text "so" :: n.children, n.span⟩, calls + 1)
  else (.ok n, calls + 1)

/-- A page with two paragraphs. -/
def twoParagraphs : Node :=
  root.withChildren [.paragraph [.text "a"], .paragraph [.text "b", ofKind .softBreak]]

/-- The page with quotations in the place of the paragraphs. -/
def twoQuotations : Node :=
  root.withChildren
    [⟨.blockQuote none, [.text "so", .text "a"], none⟩,
     ⟨.blockQuote none, [.text "so", .text "b", ofKind .softBreak], none⟩]

/-- The rule is called for the texts that it put in, and once for every node; when it fails for the
second paragraph's text, that was its last call. -/
theorem rewrite?_calls_quoting :
    (∃ calls, twoParagraphs.rewrite? (recorded (quoting "c")) 3 .top (0, []) =
        some (.ok twoQuotations, 8, calls) ∧
      calls.length = 8 ∧ List.Forall₂ Gave calls (twoQuotations.placed .top)) ∧
    ∃ calls, twoParagraphs.rewrite? (recorded (quoting "b")) 3 .top (0, []) =
        some (.error "b", 7, calls) ∧ FailedLast "b" calls := by
  have hgiven : twoParagraphs.rewrite? (quoting "c") 3 .top 0 = some (.ok twoQuotations, 8) := by
    rfl
  have hfailed : twoParagraphs.rewrite? (quoting "b") 3 .top 0 = some (.error "b", 7) := by
    rfl
  obtain ⟨⟨calls, hcalls, hgave, -⟩, -⟩ := rewrite?_calls (quoting "c") hgiven
  obtain ⟨⟨calls', hcalls', -, hlast⟩, -⟩ := rewrite?_calls (quoting "b") hfailed
  obtain ⟨hlength, -, hall⟩ := hgave _ rfl
  exact ⟨⟨calls, hcalls 3 (Nat.le_refl _), hlength, hall⟩,
    ⟨calls', hcalls' 3 (Nat.le_refl _), hlast _ rfl⟩⟩

end Node

end WikiPage
