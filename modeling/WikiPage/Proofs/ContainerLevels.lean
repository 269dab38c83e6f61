import WikiPage.Proofs.LinkLabels
/-!
# How deep the constructs of a page are

The limit on nesting is kept while a page is read, and links for addresses are made afterwards, without
a look at it.  A text may stand in a construct at the limit, so a link that is made for it stands one
level below.

* `leveled` are the nodes of a tree with their levels; the document has level zero.
* `kept_levels`: what is read keeps the limit (`levels_treeOfEvents`).
* `leveled_autolink` says where the nodes of a tree with links come from, and at which level;
  `mem_leveled_autolink` that nothing but texts gives way.
* `parse_containers`: a page has constructs beyond the limit just when an address is linked in a construct
  at the limit, and these constructs are the links.
-/

namespace WikiPage

namespace Node

/-! ## 1. Levels -/

mutual
/-- The nodes of a tree with their levels, the top of the tree having a given one. -/
def leveled (level : Nat) : Node → List (Nat × Node)
  | ⟨kind, children, span⟩ => (level, ⟨kind, children, span⟩) :: leveledAll (level + 1) children
/-- The nodes of trees in a row with their levels, the tops of the trees having a given one. -/
def leveledAll (level : Nat) : List Node → List (Nat × Node)
  | [] => []
  | n :: rest => leveled level n ++ leveledAll level rest
end

/-- Whether the constructs of a document stand in one another no deeper than a limit. -/
def ContainersWithin (limit : Nat) (n : Node) : Prop :=
  ∀ x ∈ leveled 0 n, x.2.kind.isContainer = true → x.1 ≤ limit

instance (limit : Nat) (n : Node) : Decidable (ContainersWithin limit n) :=
  inferInstanceAs (Decidable (∀ x ∈ _, _))

theorem mem_leveledAll_iff {level : Nat} {x : Nat × Node} {ns : List Node} :
    x ∈ leveledAll level ns ↔ ∃ n ∈ ns, x ∈ leveled level n := by
  induction ns with
  | nil => simp [leveledAll]
  | cons n rest ih => simp [leveledAll, ih]

theorem mem_leveled_iff {level : Nat} {x : Nat × Node} {n : Node} :
    x ∈ leveled level n ↔ x = (level, n) ∨ ∃ c ∈ n.children, x ∈ leveled (level + 1) c := by
  obtain ⟨kind, children, span⟩ := n
  rw [leveled, List.mem_cons, mem_leveledAll_iff]

theorem mem_leveled_self (level : Nat) (n : Node) : (level, n) ∈ leveled level n :=
  mem_leveled_iff.2 (.inl rfl)

mutual
/-- A child of a node stands one level below the node. -/
theorem leveled_child {p : Nat × Node} {c : Node} (hc : c ∈ p.2.children) :
    ∀ (n : Node) (level : Nat), p ∈ leveled level n → (p.1 + 1, c) ∈ leveled level n
  | ⟨kind, children, span⟩, level, hp => by
    rcases List.mem_cons.1 hp with rfl | hp
    · exact mem_leveled_iff.2 (.inr ⟨c, hc, mem_leveled_self _ c⟩)
    · exact List.mem_cons_of_mem _ (leveledAll_child hc children (level + 1) hp)
theorem leveledAll_child {p : Nat × Node} {c : Node} (hc : c ∈ p.2.children) :
    ∀ (ns : List Node) (level : Nat), p ∈ leveledAll level ns → (p.1 + 1, c) ∈ leveledAll level ns
  | [], _, hp => nomatch hp
  | n :: rest, level, hp =>
    List.mem_append.2 ((List.mem_append.1 hp).imp (leveled_child hc n level)
      (leveledAll_child hc rest level))
end

end Node

open Node

/-! ## 2. Reading -/

namespace Markdown

/-- What is read at a level is no deeper than a leaf in a construct at the limit may be. -/
theorem kept_levels (limit : Nat) : Kept limit fun level n => ∀ x ∈ leveled level n,
    x.1 ≤ limit + 1 ∧ (x.2.kind.isContainer = true → x.1 ≤ limit) where
  leaf level kind span hlevel hkind x hx := by
    obtain rfl : x = (level, ⟨kind, [], some span⟩) := List.mem_singleton.1 hx
    refine ⟨hlevel, fun hcontainer => ?_⟩
    have hleaf := NodeKind.isLeaf_of_isContainer hcontainer
    exact absurd (hleaf.symm.trans hkind) Bool.false_ne_true
  container level kind children span hlevel _ hchildren x hx := by
    obtain rfl | ⟨c, hc, hx⟩ := mem_leveled_iff.1 hx
    · exact ⟨Nat.le_succ_of_le hlevel, fun _ => hlevel⟩
    · exact hchildren c hc x hx
  joined level a b both ha _ h x hx := by
    obtain ⟨-, hleaf, hchildren⟩ := leaf_of_joined? h
    obtain rfl | ⟨c, hc, hx⟩ := mem_leveled_iff.1 hx
    · refine ⟨(ha _ (mem_leveled_self level a)).1, fun hcontainer => ?_⟩
      rw [NodeKind.isLeaf_of_isContainer hcontainer] at hleaf
      cases hleaf
    · exact ha x (mem_leveled_iff.2 (.inr ⟨c, hchildren ▸ hc, hx⟩))

/-- **Reading keeps the limit**, and so a leaf is one level below it at most. -/
theorem levels_treeOfEvents {size limit : Nat} {events : List Located} {tree : Node}
    (h : treeOfEvents size limit events = .ok tree) : ∀ x ∈ leveled 0 tree,
    x.1 ≤ limit + 1 ∧ (x.2.kind.isContainer = true → x.1 ≤ limit) := by
  intro x hx
  obtain rfl | ⟨c, hc, hx⟩ := mem_leveled_iff.1 hx
  · exact ⟨Nat.zero_le _, fun _ => Nat.zero_le _⟩
  · exact all_treeOfEvents (kept_levels limit) h c hc x hx

end Markdown

/-! ## 3. Links for addresses -/

namespace Links

/-- What stands among trees with links: the trees, and what texts among them gave way to. -/
theorem of_mem_autolinkAll {label : Bool} {m : Node} : ∀ {ns : List Node},
    m ∈ autolinkAll label ns → (∃ n ∈ ns, m = autolink n) ∨
      label = false ∧ ∃ t ∈ ns, ∃ nodes, splitText? t = some nodes ∧ m ∈ nodes
  | n :: rest, hm => by
    have hrest (hm : m ∈ autolinkAll label rest) : (∃ n' ∈ n :: rest, m = autolink n') ∨
        label = false ∧ ∃ t ∈ n :: rest, ∃ nodes, splitText? t = some nodes ∧ m ∈ nodes :=
      (of_mem_autolinkAll hm).imp (fun ⟨n', hn', h⟩ => ⟨n', List.mem_cons_of_mem _ hn', h⟩)
        (fun ⟨hlabel, t, ht, h⟩ => ⟨hlabel, t, List.mem_cons_of_mem _ ht, h⟩)
    obtain hall | ⟨nodes, hlabel, hsplit, hall⟩ := autolinkAll_cons_cases label n rest <;>
      rw [hall] at hm
    · rcases List.mem_cons.1 hm with rfl | hm
      · exact .inl ⟨n, List.mem_cons_self, rfl⟩
      · exact hrest hm
    · rcases List.mem_append.1 hm with hm | hm
      · exact .inr ⟨hlabel, n, List.mem_cons_self, nodes, hsplit, hm⟩
      · exact hrest hm

/-- How a node comes to stand at its level in a tree with links: a node of the tree stood there, or a
text there or above gave way. -/
def CameFrom (tree : List (Nat × Node)) (x : Nat × Node) : Prop :=
  (∃ m, (x.1, m) ∈ tree ∧ x.2 = autolink m) ∨
    ∃ p ∈ tree, labels p.2.kind = false ∧ ∃ t ∈ p.2.children, ∃ nodes, splitText? t = some nodes ∧
      ∃ m ∈ nodes, x ∈ leveled (p.1 + 1) m

theorem CameFrom.mono {tree tree' : List (Nat × Node)} {x : Nat × Node} (h : CameFrom tree x)
    (hsub : tree ⊆ tree') : CameFrom tree' x :=
  h.imp (fun ⟨m, hm, heq⟩ => ⟨m, hsub hm, heq⟩) (fun ⟨p, hp, hmade⟩ => ⟨p, hsub hp, hmade⟩)

mutual
/-- **Where the nodes of a tree with links come from.** -/
theorem leveled_autolink {x : Nat × Node} : ∀ (n : Node) (level : Nat),
    x ∈ leveled level (autolink n) → CameFrom (leveled level n) x
  | ⟨kind, children, span⟩, level, hx => by
    rcases List.mem_cons.1 hx with rfl | hx
    · exact .inl ⟨_, mem_leveled_self level _, rfl⟩
    · obtain ⟨m, hm, hx⟩ := mem_leveledAll_iff.1 hx
      obtain ⟨c, hc, rfl⟩ | ⟨hlabel, t, ht, nodes, hnodes, hm⟩ := of_mem_autolinkAll hm
      · have hbelow : leveled (level + 1) c ⊆ leveled level ⟨kind, children, span⟩ := fun y hy =>
          mem_leveled_iff.2 (.inr ⟨c, hc, hy⟩)
        exact (leveled_autolink_of_mem children c hc (level + 1) hx).mono hbelow
      · exact .inr ⟨_, mem_leveled_self level _, hlabel, t, ht, nodes, hnodes, m, hm, hx⟩
theorem leveled_autolink_of_mem {x : Nat × Node} : ∀ ns : List Node, ∀ n ∈ ns, ∀ level : Nat,
    x ∈ leveled level (autolink n) → CameFrom (leveled level n) x
  | [] => List.forall_mem_nil _
  | n :: rest => List.forall_mem_cons.2 ⟨leveled_autolink n, leveled_autolink_of_mem rest⟩
end

mutual
/-- **Only texts give way**: a construct that was read stays at its level. -/
theorem mem_leveled_autolink {p : Nat × Node} (hp : p.2.children ≠ []) : ∀ (n : Node) (level : Nat),
    (∀ c ∈ n.children, c.Everywhere Markdown.AsRead) → p ∈ leveled level n →
      (p.1, autolink p.2) ∈ leveled level (autolink n)
  | ⟨kind, children, span⟩, level, h, hmem => by
    rcases List.mem_cons.1 hmem with rfl | hmem
    · exact mem_leveled_self level _
    · obtain ⟨c, hc, hmem⟩ := mem_leveledAll_iff.1 hmem
      obtain ⟨hself, hbelow⟩ := everywhere_iff.1 (h c hc)
      have hstays : splitText? c = none := by
        by_contra hsplit
        obtain ⟨nodes, hnodes⟩ := Option.ne_none_iff_exists'.1 hsplit
        obtain ⟨value, -, hkind, -⟩ := splitTextWith?_eq_some hnodes
        -- a text holds nothing, so it is not what `p` is, and `p` does not stand in it
        have hleaf : c.children = [] := hself.leaf (by rw [hkind]; rfl)
        obtain rfl | ⟨c', hc', -⟩ := mem_leveled_iff.1 hmem
        · exact hp hleaf
        · rw [hleaf] at hc'
          cases hc'
      refine mem_leveled_iff.2 (.inr ⟨autolink c, mem_autolinkAll_of_mem hc fun _ => hstays, ?_⟩)
      exact mem_leveled_autolink_of_mem hp children c hc (level + 1) hbelow hmem
theorem mem_leveled_autolink_of_mem {p : Nat × Node} (hp : p.2.children ≠ []) :
    ∀ ns : List Node, ∀ n ∈ ns, ∀ level : Nat, (∀ c ∈ n.children, c.Everywhere Markdown.AsRead) →
      p ∈ leveled level n → (p.1, autolink p.2) ∈ leveled level (autolink n)
  | [] => List.forall_mem_nil _
  | n :: rest =>
    List.forall_mem_cons.2 ⟨mem_leveled_autolink hp n, mem_leveled_autolink_of_mem hp rest⟩
end

theorem isContainer_of_isLink {kind : NodeKind} (h : isLink kind = true) :
    kind.isContainer = true := by
  cases kind <;> first | rfl | cases h

/-- What a text gives way to is a row of texts and links, and a link holds a text only. -/
theorem container_of_mem_partNodes {base : Option Nat} {level : Nat} {m : Node} {x : Nat × Node}
    (hcontainer : x.2.kind.isContainer = true) {parts : List LinkedPart} {offset : Nat}
    (hm : m ∈ partNodes base offset parts) (hx : x ∈ leveled level m) :
    x = (level, m) ∧ isLink m.kind = true := by
  obtain ⟨part, -, span, -, rfl | ⟨url, rfl⟩⟩ := mem_partNodes_cases hm
  · obtain rfl := List.mem_singleton.1 hx
    cases hcontainer
  · rcases List.mem_cons.1 hx with rfl | hx
    · exact ⟨rfl, rfl⟩
    · obtain rfl := List.mem_singleton.1 hx
      cases hcontainer

/-- Whether no address is linked in a text that stands in a construct at a level. -/
def NoLinksIn (level : Nat) (n : Node) : Prop :=
  ∀ p ∈ leveled 0 n, p.1 = level → labels p.2.kind = false → ∀ t ∈ p.2.children,
    splitText? t = none

section Levels

variable {limit : Nat} {n : Node} (hlevels : ∀ x ∈ leveled 0 n,
  x.1 ≤ limit + 1 ∧ (x.2.kind.isContainer = true → x.1 ≤ limit))
include hlevels

/-- **What is beyond the limit** once links have been made are links for texts at the limit. -/
theorem beyond_of_mem_leveled_autolink {x : Nat × Node} (hx : x ∈ leveled 0 (autolink n))
    (hcontainer : x.2.kind.isContainer = true) : x.1 ≤ limit ∨
      x.1 = limit + 1 ∧ isLink x.2.kind = true ∧ ∃ p ∈ leveled 0 n, p.1 = limit ∧
        labels p.2.kind = false ∧ ∃ t ∈ p.2.children, ∃ nodes, splitText? t = some nodes ∧
          x.2 ∈ nodes := by
  obtain ⟨m, hm, heq⟩ | ⟨p, hp, hlabel, t, ht, nodes, hnodes, m, hm, hx⟩ := leveled_autolink n 0 hx
  · rw [heq, kind_autolink] at hcontainer
    exact .inl ((hlevels _ hm).2 hcontainer)
  · obtain ⟨value, base, -, -, rfl⟩ := splitTextWith?_eq_some hnodes
    obtain ⟨rfl, hlink⟩ := container_of_mem_partNodes hcontainer hm hx
    have hbelow : (p.1 + 1, t) ∈ leveled 0 n := leveled_child ht n 0 hp
    have hle : p.1 ≤ limit := Nat.le_of_succ_le_succ (hlevels _ hbelow).1
    rcases Nat.lt_or_eq_of_le hle with hlt | heq
    · exact .inl hlt
    · exact .inr ⟨congrArg (· + 1) heq, hlink, p, hp, heq, hlabel, t, ht, _, hnodes, hm⟩

/-- **When links keep the limit.** -/
theorem containersWithin_autolink_iff
    (hread : ∀ c ∈ n.children, c.Everywhere Markdown.AsRead) :
    (autolink n).ContainersWithin limit ↔ NoLinksIn limit n := by
  constructor
  · intro hwithin p hp hlimit hlabel t ht
    by_contra hsplit
    obtain ⟨nodes, hnodes⟩ := Option.ne_none_iff_exists'.1 hsplit
    obtain ⟨l, hl, hlink⟩ := exists_link_of_splitText? hnodes
    -- the link stands where the text stood, below a construct that stays where it is
    have hstays := mem_leveled_autolink (List.ne_nil_of_mem ht) n 0 hread hp
    have hmade : l ∈ (autolink p.2).children := by
      obtain ⟨level, kind, children, span⟩ := p
      obtain hlabel : labels kind = false := hlabel
      rw [autolink_mk, hlabel]
      exact mem_autolinkAll_of_splitText? ht hnodes hl
    have hbelow : (p.1 + 1, l) ∈ leveled 0 (autolink n) :=
      leveled_child (p := (p.1, autolink p.2)) hmade (autolink n) 0 hstays
    have hle : p.1 + 1 ≤ limit := hwithin _ hbelow (isContainer_of_isLink hlink)
    omega
  · intro hnone x hx hcontainer
    obtain hle | ⟨-, -, p, hp, hlimit, hlabel, t, ht, nodes, hnodes, -⟩ :=
      beyond_of_mem_leveled_autolink hlevels hx hcontainer
    · exact hle
    · rw [hnone p hp hlimit hlabel t ht] at hnodes
      cases hnodes

end Levels

end Links

/-! ## 4. Pages -/

namespace Markdown

open Links

/-- **How deep the constructs of a page are.**  They keep the limit just when no links are made for
addresses, or when none is made in a text that stands in a construct at the limit.  What is beyond
the limit stands one level below it, and is a link that was made for such a text. -/
theorem parse_containers {options : ParseOptions} {source : String} {tree : Node}
    (h : parse options source = .ok tree) : ∃ read, parseEvents options source = .ok read ∧
      read.ContainersWithin options.maxNesting ∧
      (tree.ContainersWithin options.maxNesting ↔
        options.gfm = false ∨ NoLinksIn options.maxNesting read) ∧
      ∀ x ∈ leveled 0 tree, x.2.kind.isContainer = true → x.1 ≤ options.maxNesting ∨
        x.1 = options.maxNesting + 1 ∧ isLink x.2.kind = true ∧
          ∃ p ∈ leveled 0 read, p.1 = options.maxNesting ∧ labels p.2.kind = false ∧
            ∃ t ∈ p.2.children, ∃ nodes, splitText? t = some nodes ∧ x.2 ∈ nodes := by
  obtain ⟨read, hread, rfl⟩ := ok_of_map h
  have hlevels := levels_treeOfEvents hread
  have hkept : read.ContainersWithin options.maxNesting := fun x hx => (hlevels x hx).2
  refine ⟨read, hread, hkept, ?_⟩
  cases options.gfm with
  | false => exact ⟨iff_of_true hkept (.inl rfl), fun x hx hcontainer => .inl (hkept x hx hcontainer)⟩
  | true =>
    refine ⟨?_, fun x => beyond_of_mem_leveled_autolink hlevels⟩
    rw [or_iff_right (by simp)]
    exact containersWithin_autolink_iff hlevels (asRead_treeOfEvents hread)

/-- An address that is pasted. -/
def pastedAddress : String := "https://a.example/"

theorem within_pastedAddress : ((parse { maxNesting := 1 } pastedAddress).toOption.map fun tree =>
    decide (tree.ContainersWithin 1)) = some false := by
  decide +kernel

/-- A pasted address is a text in a construct at the limit, if only one may be open. -/
theorem parse_containers_pasted : ∃ tree read : Node,
    parse { maxNesting := 1 } pastedAddress = .ok tree ∧
      parseEvents { maxNesting := 1 } pastedAddress = .ok read ∧ read.ContainersWithin 1 ∧
      ¬ NoLinksIn 1 read := by
  obtain ⟨tree, htree, hdeep⟩ := of_toOption_map within_pastedAddress
  obtain ⟨read, hread, hkept, hiff, -⟩ := parse_containers htree
  exact ⟨tree, read, htree, hread, hkept, fun hnone => of_decide_eq_false hdeep (hiff.2 (.inr hnone))⟩

/-- So it is linked beyond the limit, where a link that is written is not read. -/
theorem pastedAddress_beyond_limit : ∃ tree : Node,
    parse { maxNesting := 1 } pastedAddress = .ok tree ∧ ¬ tree.ContainersWithin 1 ∧
      parse { maxNesting := 1 } ("<" ++ pastedAddress ++ ">") = .error (.tooDeep 1 0) := by
  obtain ⟨tree, htree, hdeep⟩ := of_toOption_map within_pastedAddress
  exact ⟨tree, htree, of_decide_eq_false hdeep, by decide +kernel⟩

end Markdown

end WikiPage
