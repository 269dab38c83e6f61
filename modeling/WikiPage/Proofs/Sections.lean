import WikiPage.Proofs.Settled
/-!
# Sections of a page for themselves

A page is a section and what follows it.  Every opening in the section might take the nodes up to a
closing marker that follows.  It does not when it finds one in the section: the nearest one counts,
and what follows is behind all of the section.  So only an opening without an end reaches out, and
it does so even if a block of the section takes it in the end.

* `fate_append`: the fate of a node that finds what it looks for is the same with more nodes behind
  it; `expandFromRight_append` follows by induction on the section.
* `expand_sections`: a section without such openings and what follows it are expanded each for
  itself.
-/

namespace WikiPage.Shortcode

section Sections

variable {r : Registry} {source : Option String} {inner : List Node → Expansion}

/-! ## 1. More nodes behind a node -/

/-- A fate with more nodes behind those that are left. -/
def Fate.followedBy (later : List Node) : Fate → Fate
  | replaced call rest => .replaced call (rest ++ later)
  | content => .content
  | unclosed d => .unclosed d

/-- **A node that finds what it looks for** does not look further. -/
theorem fate_append (n : Node) (after later : List Node)
    (h : (fate r source inner n after).unclosed? = none) :
    fate r source inner n (after ++ later) =
      (fate r source inner n after).followedBy later := by
  unfold fate at h ⊢
  cases hn : r.recognize? n with
  | none => rfl
  | some d =>
    rw [hn] at h
    dsimp only at h ⊢
    cases hmake : d.shortcode.handler with
    | inline make => rfl
    | block make =>
      rw [hmake] at h
      dsimp only at h ⊢
      cases hdrop : after.dropWhile (!closes d.shortcode.name ·) with
      | nil =>
        rw [hdrop] at h
        cases h
      | cons closing rest =>
        obtain ⟨hafter, hclosing, -⟩ := nearest_closing hdrop
        -- the nodes up to the closing marker are not all nodes of the section
        have hshorter : (after.takeWhile (!closes d.shortcode.name ·)).length ≠ after.length := by
          intro hlength
          have := congrArg List.length hafter
          rw [List.length_append, List.length_cons] at this
          omega
        rw [List.takeWhile_append, if_neg hshorter, List.dropWhile_append, hdrop]
        rfl

/-- A fate carried out in front of a section and of what follows it. -/
theorem expansion_followedBy (n : Node) (after later : Expansion) (f : Fate)
    (h : f.unclosed? = none) :
    (f.followedBy later.nodes).expansion source n
        ⟨after.nodes ++ later.nodes, later.warnings ++ after.warnings⟩ =
      ⟨(f.expansion source n after).nodes ++ later.nodes,
        later.warnings ++ (f.expansion source n after).warnings⟩ := by
  cases f with
  | content => rfl
  | unclosed d => cases h
  | replaced call rest =>
    simp only [Fate.followedBy, Fate.expansion, List.cons_append, List.append_assoc]

/-- **A section whose openings all find their ends** is expanded for itself, whatever follows. -/
theorem expandFromRight_append (ys : List Node) : ∀ {xs : List Node},
    unclosedIn r source inner xs = [] →
      expandFromRight r source inner (xs ++ ys) =
        ⟨(expandFromRight r source inner xs).nodes ++ (expandFromRight r source inner ys).nodes,
          (expandFromRight r source inner ys).warnings ++
            (expandFromRight r source inner xs).warnings⟩
  | [], _ => by simp [expandFromRight]
  | n :: rest, h => by
    unfold unclosedIn at h
    rw [fates, List.filterMap_cons] at h
    -- neither the node nor one behind it is an opening without an end
    have hn : (fate r source inner n (expandFromRight r source inner rest).nodes).unclosed? =
        none := by
      cases hf : (fate r source inner n (expandFromRight r source inner rest).nodes).unclosed? with
      | none => rfl
      | some d =>
        rw [hf] at h
        cases h
    rw [hn] at h
    have ih := @expandFromRight_append ys rest h
    rw [List.cons_append, expandFromRight, ih, expandBefore_eq_fate, fate_append n _ _ hn,
      expansion_followedBy n _ _ _ hn, ← expandBefore_eq_fate]
    rfl

end Sections

/-! ## 2. Sections -/

/-- **A section all of whose openings find their ends, and what follows it, are expanded each for
itself**: the nodes of the one stand in front of those of the other, and the warnings behind, as
what follows is expanded first.  This holds of every registry, whatever handlers expand by as long
as it is the same in the section and behind it, so at every number of levels; handlers that expand
what they are given may call the registry back. -/
theorem expand_sections (r : Registry) (source : Option String) (xs ys : List Node) :
    (∀ inner, unclosedIn r source inner xs = [] →
      expandBy r source inner (xs ++ ys) =
        ⟨(expandBy r source inner xs).nodes ++ (expandBy r source inner ys).nodes,
          (expandBy r source inner ys).warnings ++ (expandBy r source inner xs).warnings⟩) ∧
    ((∀ s ∈ r.shortcodes, s.handler.ExpandsBody) →
      unclosedIn r source (expandWithin r source (Node.countAll xs)) xs = [] →
        r.expand source (xs ++ ys) =
          ⟨(r.expand source xs).nodes ++ (r.expand source ys).nodes,
            (r.expand source ys).warnings ++ (r.expand source xs).warnings⟩) := by
  refine ⟨fun inner h => ?_, fun hr h => ?_⟩
  · simp only [expandBy_eq_expandFromRight]
    exact expandFromRight_append ys h
  · have hunclosed : unclosedIn r source (r.expand source) xs = [] :=
      (unclosedIn_congr hr fun ms hms => (expandWithin_countAll hr hms).symm).trans h
    simp only [Registry.expand_eq_expandFromRight_expand hr]
    exact expandFromRight_append ys hunclosed

/-- A part with a tip in it, and a closing marker that closes nothing. -/
def tipInPart : List Node :=
  [markerOf "part", markerOf "tip", .paragraph [.text "a"], markerOf "/tip", markerOf "/part",
    markerOf "/tip"]

/-- A tip that is never closed, and a closing marker that closes nothing. -/
def openTip : List Node := [markerOf "tip", .paragraph [.text "b"], markerOf "/part"]

/-- Neither of the two takes anything from the other. -/
theorem expand_tipInPart_openTip :
    (∀ s ∈ Registry.withParts.shortcodes, s.handler.ExpandsBody) ∧
    (∀ inner, unclosedIn .withParts none inner tipInPart = []) ∧
    Registry.withParts.expand none (tipInPart ++ openTip) =
      ⟨(Node.element "section" Attributes.empty).withChildren
          [(Node.element "div" (Attributes.empty.withText "class" "hint is-tip")).withChildren
            [.paragraph [.text "a"]]] :: markerOf "/tip" :: openTip,
        ["\x7b\x7btip\x7d\x7d has no matching \x7b\x7b/tip\x7d\x7d"]⟩ ∧
    (expandBy .withParts none (fun _ => ⟨[], []⟩) (tipInPart ++ openTip)).nodes =
      (Node.element "section" Attributes.empty) :: markerOf "/tip" :: openTip := by
  have hparts : ∀ s ∈ Registry.withParts.shortcodes, s.handler.ExpandsBody := by
    intro s hs
    rcases List.mem_cons.1 hs with rfl | hs
    · intro params body tag span line expand expand' h
      have hbody : expand body = expand' body := h body (Nat.le_refl _)
      dsimp only
      rw [hbody]
    · rw [List.mem_singleton.1 hs]
      exact fun _ _ _ _ _ _ _ _ => rfl
  have hunclosed : ∀ inner, unclosedIn .withParts none inner tipInPart = [] := fun inner => rfl
  obtain ⟨hinner, hregistry⟩ := expand_sections .withParts none tipInPart openTip
  refine ⟨hparts, hunclosed, ?_, ?_⟩
  · rw [hregistry hparts (hunclosed _)]
    decide +kernel
  · rw [hinner _ (hunclosed _)]
    decide +kernel

/-- An opening without an end reaches out of a section even from within a block. -/
example :
    let nodes := [markerOf "tip", markerOf "note", .paragraph [.text "a"], markerOf "/tip"]
    (Registry.standard.expand none nodes).nodes.length = 1 ∧
      (Registry.standard.expand none (nodes ++ [markerOf "/note"])).nodes.length = 2 := by
  decide +kernel

end WikiPage.Shortcode
