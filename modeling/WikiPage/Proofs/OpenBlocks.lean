import WikiPage.Proofs.Conservation
import WikiPage.Proofs.Settled
/-!
# Reports about openings without an end

An opening marker that finds no closing one stays, with a warning.  A handler that expands the nodes
it was given finds those openings in them that stayed before, and each of them is reported again.

* `Registry.isUnterminated` picks these warnings out of all, whatever else is reported: no warning of
  a built-in handler is one of them (`isUnterminated_warning`).
* `Expanding` are the blocks that put an element around what expanding gives, and `Registry.MadeOf`
  says which tags of a registry have such a handler, the others being built-in.
* `Piece.expandedAgain` are the nodes with such a block right around them.
* `Reported` is the invariant of the history, `Reported.step` one node more.
* `expand_reports`: every opening that is left is reported once, and once more when it stands directly
  in a block that expands.
-/

namespace WikiPage.Shortcode

/-! ## 1. Reports -/

/-- A warning without the line with which it may begin. -/
def afterLine (warning : List Char) : List Char :=
  match withoutStart? "line ".toList warning with
  | some rest => (rest.dropWhile Char.isDigit).drop 2
  | none => warning

/-- Whether a warning is about an opening marker without a closing one. -/
def Registry.isUnterminated (r : Registry) (warning : String) : Bool :=
  r.shortcodes.any fun s => afterLine warning.toList == (unterminated none s.name).toList

/-- The report about a node that opens a registered shortcode; nothing for other nodes. -/
def Registry.report (r : Registry) (source : Option String) (n : Node) : List String :=
  match r.recognize? n with
  | some d => [unterminated (lineOf? source n.span) d.shortcode.name]
  | none => []

/-- The nodes of a list that open a registered shortcode. -/
def Registry.openingsIn (r : Registry) (nodes : List Node) : List Node :=
  nodes.filter fun n => (r.recognize? n).isSome

section Reports

variable {r : Registry} {source : Option String}

theorem toList_braced (tag : String) :
    (braced tag).toList = '\x7b' :: '\x7b' :: (tag.toList ++ ['\x7d', '\x7d']) := by
  simp [braced, String.toList_append]

/-- The line is all that stands in front of a tag. -/
theorem afterLine_located (line : Option Nat) (tag rest : String) :
    afterLine (located line (braced tag ++ rest)).toList = (braced tag ++ rest).toList := by
  cases line with
  | none => simp [located, afterLine, withoutStart?, String.toList_append, toList_braced]
  | some line =>
    have hdigits : ∀ c ∈ (toString line).toList, c.isDigit = true := by
      intro c hc
      rw [show (toString line).toList = Nat.toDigits 10 line from Nat.toList_repr] at hc
      exact Nat.isDigit_of_mem_toDigits (by decide) (by decide) hc
    have hdrop : ∀ more : List Char,
        ((toString line).toList ++ ':' :: more).dropWhile Char.isDigit = ':' :: more := by
      intro more
      rw [List.dropWhile_append_of_pos hdigits]
      rfl
    have htext : (located (some line) (braced tag ++ rest)).toList =
        "line ".toList ++ ((toString line).toList ++ ':' :: ' ' :: (braced tag ++ rest).toList) := by
      simp [located, String.toList_append]
    have hstart : ∀ more : List Char,
        withoutStart? "line ".toList ("line ".toList ++ more) = some more := fun _ => rfl
    rw [htext, afterLine, hstart]
    simp only [hdrop, List.drop_succ_cons, List.drop_zero]

/-- A registered tag has no brace in it. -/
theorem Registry.dropWhile_name {s : Shortcode} (hs : s ∈ r.shortcodes) (rest : List Char) :
    (s.name.toList ++ rest).dropWhile (· != '\x7d') = rest.dropWhile (· != '\x7d') := by
  refine List.dropWhile_append_of_pos fun c hc => ?_
  have hc' := (Registry.isName_of_mem hs).2 c hc
  rw [bne_iff_ne]
  rintro rfl
  revert hc'
  decide

/-- The report about a registered tag is one. -/
theorem isUnterminated_unterminated {s : Shortcode} (hs : s ∈ r.shortcodes) (line : Option Nat) :
    r.isUnterminated (unterminated line s.name) = true := by
  refine List.any_eq_true.2 ⟨s, hs, ?_⟩
  rw [unterminated, String.append_assoc, afterLine_located, beq_iff_eq, unterminated, located,
    String.append_assoc]

/-- **A warning of a handler is no report**: behind its tag there is a colon. -/
theorem isUnterminated_warning {s : Shortcode} (hs : s ∈ r.shortcodes) {ctx : Context}
    (htag : ctx.tag = s.name) (message : String) :
    r.isUnterminated (ctx.warning message) = false := by
  refine List.any_eq_false.2 fun t ht heq => ?_
  rw [Context.warning, htag, String.append_assoc, afterLine_located, beq_iff_eq, unterminated, located,
    String.append_assoc] at heq
  simp only [String.toList_append, toList_braced s.name, toList_braced t.name, List.cons_append,
    List.append_assoc, List.cons.injEq, true_and, List.nil_append] at heq
  -- the first closing braces are those of the two tags
  have hrest := congrArg (List.dropWhile (· != '\x7d')) heq
  rw [Registry.dropWhile_name hs, Registry.dropWhile_name ht] at hrest
  simp at hrest

theorem report_of_none {n : Node} (h : r.recognize? n = none) : r.report source n = [] := by
  simp [Registry.report, h]

/-- All reports are about openings without an end. -/
theorem isUnterminated_of_mem_report {n : Node} {w : String} (h : w ∈ r.report source n) :
    r.isUnterminated w = true := by
  unfold Registry.report at h
  split at h
  · rename_i d hn
    rw [List.mem_singleton.1 h]
    exact isUnterminated_unterminated (Registry.mem_of_recognize? hn) _
  · cases h

theorem length_report (source : Option String) (nodes : List Node) :
    (nodes.flatMap (r.report source)).length = (r.openingsIn nodes).length := by
  induction nodes with
  | nil => rfl
  | cons n rest ih =>
    rw [List.flatMap_cons, List.length_append, ih]
    cases hn : r.recognize? n <;> simp [Registry.openingsIn, Registry.report, hn, Nat.add_comm]

theorem flatMap_report_openingsIn (source : Option String) (nodes : List Node) :
    (r.openingsIn nodes).flatMap (r.report source) = nodes.flatMap (r.report source) := by
  induction nodes with
  | nil => rfl
  | cons n rest ih =>
    unfold Registry.openingsIn at ih ⊢
    rw [List.filter_cons]
    cases hn : r.recognize? n with
    | none => simpa [report_of_none hn] using ih
    | some d => simpa using ih

/-- Settled nodes give their reports and nothing else, the last node first. -/
theorem warnings_of_settled {inner : List Node → Expansion} : ∀ {nodes : List Node},
    Settled r nodes →
      (expandFromRight r source inner nodes).warnings = nodes.reverse.flatMap (r.report source)
  | [], _ => rfl
  | n :: rest, h => by
    have ih := @warnings_of_settled inner rest h.2
    have hrest : (expandFromRight r source inner rest).nodes = rest :=
      expandFromRight_of_settled h.2
    obtain ⟨f, hf, hbecomes, hexpand⟩ :=
      @exists_fate r inner source n (expandFromRight r source inner rest)
    rw [hrest] at hf
    rw [expandFromRight, hexpand, List.reverse_cons, List.flatMap_append, List.flatMap_singleton]
    cases hbecomes with
    | content hn => simp [Fate.expansion, Registry.report, hn, ih]
    | unclosed d hn _ _ => simp [Fate.expansion, Registry.report, hn, ih]
    | inline call => exact absurd hf (not_replaced_of_settled_cons h call _)
    | block call _ left => exact absurd hf (not_replaced_of_settled_cons h call left)

end Reports

/-! ## 2. Blocks that expand -/

/-- The blocks whose handler expands the nodes that it was given, puts an element around them, and
passes the warnings on. -/
def Expanding (s : Shortcode) : Prop :=
  ∃ make, s.handler = .block make ∧ ∀ params body ctx, ∃ tag attributes span,
    make params body ctx =
      (⟨.element tag attributes, (ctx.expand body).nodes, span⟩, (ctx.expand body).warnings)

/-- Whether the shortcodes with certain tags expand what stands in them, and all others are
built-in. -/
def Registry.MadeOf (r : Registry) (expands : String → Bool) : Prop :=
  ∀ s ∈ r.shortcodes, if expands s.name = true then Expanding s else BuiltIn s

/-- Whether handlers that expand settled nodes get them back, with a report about each opening. -/
def Echoes (r : Registry) (source : Option String) (inner : List Node → Expansion) : Prop :=
  ∀ nodes, Settled r nodes → inner nodes = ⟨nodes, nodes.reverse.flatMap (r.report source)⟩

/-- So it is at every number of levels but none. -/
theorem echoes_expandWithin (r : Registry) (source : Option String) (levels : Nat) :
    Echoes r source (expandWithin r source (levels + 1)) := by
  intro nodes h
  show expandBy r source (expandWithin r source levels) nodes = _
  rw [expandBy_eq_expandFromRight]
  exact congrArg₂ Expansion.mk (expandFromRight_of_settled h) (warnings_of_settled h)

section Expanding

variable {r : Registry} {source : Option String} {inner : List Node → Expansion}
  {expands : String → Bool}

/-- A built-in shortcode makes an element. -/
theorem BuiltIn.makes_noOpening {s : Shortcode} (hs : BuiltIn s) (r : Registry) :
    s.handler.Makes (r.recognize? · = none) := by
  cases hs with
  | hint kind => exact fun _ _ _ => rfl
  | blueprint address =>
    intro params ctx
    unfold blueprintNode
    dsimp only
    split <;> rfl
  | versionGate => exact fun _ _ _ => rfl

/-- All that a built-in block reports is a warning about itself. -/
theorem BuiltIn.block_warnings {s : Shortcode} (hs : BuiltIn s)
    {make : Params → List Node → Context → Node × List String} (h : s.handler = .block make)
    {params : Params} {body : List Node} {ctx : Context} :
    ∀ w ∈ (make params body ctx).2, ∃ message, w = ctx.warning message := by
  cases hs with
  | hint kind =>
    cases h
    exact fun w hw => absurd hw List.not_mem_nil
  | blueprint address => cases h
  | versionGate =>
    cases h
    intro w hw
    obtain ⟨message, -, rfl⟩ := List.mem_map.1 hw
    exact ⟨message, rfl⟩

/-- All that a built-in inline shortcode reports is a warning about itself. -/
theorem BuiltIn.inline_warnings {s : Shortcode} (hs : BuiltIn s)
    {make : Params → Context → Node × List String} (h : s.handler = .inline make)
    {params : Params} {ctx : Context} :
    ∀ w ∈ (make params ctx).2, ∃ message, w = ctx.warning message := by
  cases hs with
  | hint kind => cases h
  | blueprint address =>
    cases h
    unfold blueprintNode
    dsimp only
    split
    · exact fun w hw => absurd hw List.not_mem_nil
    · exact fun w hw => ⟨_, List.mem_singleton.1 hw⟩
  | versionGate => cases h

/-- Elements open nothing, whatever stands in them. -/
theorem Registry.MadeOf.makesNoOpening (hr : r.MadeOf expands) : r.MakesNoOpening := by
  intro s hs
  have hkind := hr s hs
  split at hkind
  · obtain ⟨make, hmake, hmade⟩ := hkind
    rw [hmake]
    intro params body ctx
    obtain ⟨tag, attributes, span, heq⟩ := hmade params body ctx
    rw [heq]
    rfl
  · exact hkind.makes_noOpening r

/-- **A block holds what it takes**: an expanding one gets the same nodes back. -/
theorem Registry.MadeOf.holdsTaken (hr : r.MadeOf expands) (hinner : Echoes r source inner)
    {after : List Node} (hafter : Settled r after) :
    ∀ s ∈ r.shortcodes, s.handler.HoldsTaken inner after := by
  intro s hs
  have hkind := hr s hs
  split at hkind
  · obtain ⟨make, hmake, hmade⟩ := hkind
    rw [hmake]
    constructor
    · intro params body ctx
      obtain ⟨tag, attributes, span, heq⟩ := hmade params body ctx
      rw [heq]
      rfl
    · rintro make' hmake' params body rest ctx rfl rfl
      cases hmake'
      obtain ⟨tag, attributes, span, heq⟩ := hmade params body ctx
      rw [heq]
      exact congrArg Expansion.nodes (hinner body (settled_of_append_left hafter))
  · exact hkind.holdsTaken after

/-- **What a block reports** about openings: an expanding one repeats the reports about what it took,
and no other one has any. -/
theorem Registry.MadeOf.block_reports (hr : r.MadeOf expands) (hinner : Echoes r source inner)
    {s : Shortcode} (hs : s ∈ r.shortcodes)
    {make : Params → List Node → Context → Node × List String} (hmake : s.handler = .block make)
    {body : List Node} (hbody : Settled r body) (params : Params) {ctx : Context}
    (htag : ctx.tag = s.name) (hexpand : ctx.expand = inner) :
    (make params body ctx).2.filter r.isUnterminated =
      if expands s.name then body.reverse.flatMap (r.report source) else [] := by
  have hkind := hr s hs
  split at hkind
  · rename_i hexpands
    obtain ⟨make', hmake', hmade⟩ := hkind
    obtain ⟨tag, attributes, span, heq⟩ := hmade params body ctx
    rw [hmake] at hmake'
    cases hmake'
    rw [heq, hexpand, hinner body hbody, if_pos hexpands]
    refine List.filter_eq_self.2 fun w hw => ?_
    obtain ⟨n, -, hw⟩ := List.mem_flatMap.1 hw
    exact isUnterminated_of_mem_report hw
  · rename_i hexpands
    rw [if_neg hexpands]
    refine List.filter_eq_nil_iff.2 fun w hw => ?_
    obtain ⟨message, rfl⟩ := hkind.block_warnings hmake w hw
    simp [isUnterminated_warning hs htag]

/-- An inline shortcode reports nothing about openings. -/
theorem Registry.MadeOf.inline_reports (hr : r.MadeOf expands) {s : Shortcode}
    (hs : s ∈ r.shortcodes) {make : Params → Context → Node × List String}
    (hmake : s.handler = .inline make) (params : Params) {ctx : Context}
    (htag : ctx.tag = s.name) : (make params ctx).2.filter r.isUnterminated = [] := by
  have hkind := hr s hs
  split at hkind
  · obtain ⟨make', hmake', -⟩ := hkind
    rw [hmake] at hmake'
    cases hmake'
  · refine List.filter_eq_nil_iff.2 fun w hw => ?_
    obtain ⟨message, rfl⟩ := hkind.inline_warnings hmake w hw
    simp [isUnterminated_warning hs htag]

end Expanding

/-! ## 3. Reports in the history of an expansion -/

/-- Whether the block that a node opens expands what stands in it. -/
def Registry.expandsAt (r : Registry) (expands : String → Bool) (opening : Node) : Bool :=
  (r.recognize? opening).any fun d => expands d.shortcode.name

namespace Piece

mutual
/-- The kept nodes in a piece that have a block right around them that expands; `inside` says whether
the piece itself has. -/
def expandedAgain (r : Registry) (expands : String → Bool) (inside : Bool) : Piece → List Node
  | kept n => if inside then [n] else []
  | inline _ _ => []
  | block opening _ _ _ body => expandedAgainAll r expands (r.expandsAt expands opening) body
/-- The kept nodes in pieces in a row that have a block right around them that expands. -/
def expandedAgainAll (r : Registry) (expands : String → Bool) (inside : Bool) :
    List Piece → List Node
  | [] => []
  | p :: rest => p.expandedAgain r expands inside ++ expandedAgainAll r expands inside rest
end

theorem expandedAgainAll_append (r : Registry) (expands : String → Bool) (inside : Bool)
    (ps qs : List Piece) : expandedAgainAll r expands inside (ps ++ qs) =
      expandedAgainAll r expands inside ps ++ expandedAgainAll r expands inside qs := by
  induction ps with
  | nil => rfl
  | cons p rest ih => rw [List.cons_append, expandedAgainAll, expandedAgainAll, ih, List.append_assoc]

theorem contentAll_append (ps qs : List Piece) :
    contentAll (ps ++ qs) = contentAll ps ++ contentAll qs := by
  induction ps with
  | nil => rfl
  | cons p rest ih => rw [List.cons_append, contentAll, contentAll, ih, List.append_assoc]

mutual
/-- These are kept nodes, each of them once. -/
theorem expandedAgain_sublist (r : Registry) (expands : String → Bool) :
    ∀ (inside : Bool) (p : Piece), (p.expandedAgain r expands inside).Sublist p.content
  | true, kept n => List.Sublist.refl [n]
  | false, kept n => List.nil_sublist [n]
  | _, inline _ _ => List.nil_sublist _
  | _, block opening _ _ _ body =>
    expandedAgainAll_sublist r expands (r.expandsAt expands opening) body
theorem expandedAgainAll_sublist (r : Registry) (expands : String → Bool) :
    ∀ (inside : Bool) (ps : List Piece),
      (expandedAgainAll r expands inside ps).Sublist (contentAll ps)
  | _, [] => List.Sublist.refl []
  | inside, p :: rest =>
    (expandedAgain_sublist r expands inside p).append
      (expandedAgainAll_sublist r expands inside rest)
end

/-- Whether a piece is a node that was kept, or opens nothing. -/
def OpensNone (r : Registry) (p : Piece) : Prop := (∃ n, p = .kept n) ∨ r.recognize? p.node = none

/-- Nothing is reported about a piece that was made. -/
theorem OpensNone.report {r : Registry} {p : Piece} (h : p.OpensNone r)
    (hmade : ∀ n, p ≠ .kept n) (source : Option String) : r.report source p.node = [] :=
  report_of_none (h.resolve_left fun ⟨n, hn⟩ => hmade n hn)

/-- A block that expands adds the reports about what stands right in it. -/
theorem reports_inside {r : Registry} (source : Option String) (expands : String → Bool) :
    ∀ {ps : List Piece}, (∀ p ∈ ps, p.OpensNone r) →
      ((expandedAgainAll r expands true ps).flatMap (r.report source)).Perm
        ((expandedAgainAll r expands false ps).flatMap (r.report source) ++
          (ps.map node).flatMap (r.report source))
  | [], _ => .refl _
  | p :: rest, h => by
    obtain ⟨hp, hrest⟩ := List.forall_mem_cons.1 h
    have ih := reports_inside source expands hrest
    simp only [expandedAgainAll, List.map_cons, List.flatMap_append, List.flatMap_cons]
    cases p with
    | kept n =>
      simp only [expandedAgain, node, if_true, Bool.false_eq_true, if_false, List.flatMap_cons,
        List.flatMap_nil, List.append_nil, List.nil_append]
      exact (ih.append_left _).trans (List.perm_append_comm_assoc _ _ _)
    | inline marker made =>
      rw [hp.report (fun n hn => by cases hn) source]
      exact ih
    | block opening closing kind span body =>
      rw [hp.report (fun n hn => by cases hn) source, List.nil_append, List.append_assoc]
      exact ih.append_left _

end Piece

/-- What pieces and warnings are to each other: of all warnings those about openings are one for each
opening that was kept, and one more for each that has a block right around it that expands. -/
structure Reported (r : Registry) (source : Option String) (expands : String → Bool)
    (pieces : List Piece) (warnings : List String) : Prop where
  opensNone : ∀ p ∈ pieces, p.OpensNone r
  reports : (warnings.filter r.isUnterminated).Perm
    ((Piece.contentAll pieces ++ Piece.expandedAgainAll r expands false pieces).flatMap
      (r.report source))

section History

variable {r : Registry} {source : Option String} {inner : List Node → Expansion}
  {expands : String → Bool}

section Add

variable {pieces : List Piece} {warnings more : List String}

/-- A node that stays is reported about, if it is an opening. -/
theorem Reported.keep (h : Reported r source expands pieces warnings) (n : Node) :
    Reported r source expands (.kept n :: pieces) (warnings ++ r.report source n) := by
  refine ⟨List.forall_mem_cons.2 ⟨.inl ⟨n, rfl⟩, h.opensNone⟩, ?_⟩
  rw [List.filter_append, List.filter_eq_self.2 fun w hw => isUnterminated_of_mem_report hw]
  exact (h.reports.append_right _).trans List.perm_append_comm

/-- What an inline shortcode makes adds no report. -/
theorem Reported.inline (h : Reported r source expands pieces warnings) {marker made : Node}
    (hmade : r.recognize? made = none) (hmore : more.filter r.isUnterminated = []) :
    Reported r source expands (.inline marker made :: pieces) (warnings ++ more) := by
  refine ⟨List.forall_mem_cons.2 ⟨.inr hmade, h.opensNone⟩, ?_⟩
  rw [List.filter_append, hmore, List.append_nil]
  exact h.reports

/-- A block that expands reports about what it takes once more, and any other one about nothing. -/
theorem Reported.block {opening closing : Node} {kind : NodeKind} {span : Option Span}
    {body rest : List Piece}
    (h : Reported r source expands (body ++ .kept closing :: rest) warnings)
    (hclosing : r.report source closing = [])
    (hmade : r.recognize? (Piece.block opening closing kind span body).node = none)
    (hmore : more.filter r.isUnterminated = if r.expandsAt expands opening then
      (body.map Piece.node).reverse.flatMap (r.report source) else []) :
    Reported r source expands (.block opening closing kind span body :: rest)
      (warnings ++ more) := by
  obtain ⟨hnoneBody, hnoneRest⟩ := List.forall_mem_append.1 h.opensNone
  refine ⟨List.forall_mem_cons.2 ⟨.inr hmade, (List.forall_mem_cons.1 hnoneRest).2⟩, ?_⟩
  have hinside := Piece.reports_inside source expands hnoneBody
  have hreversed := ((body.map Piece.node).reverse_perm).flatMap_right (r.report source)
  rw [List.filter_append, hmore]
  -- each report is there as often on both sides
  refine List.perm_iff_count.2 fun w => ?_
  have hcount := List.perm_iff_count.1 h.reports w
  have hcountInside := List.perm_iff_count.1 hinside w
  have hcountReversed := List.perm_iff_count.1 hreversed w
  simp only [Piece.contentAll_append, Piece.expandedAgainAll_append, Piece.contentAll,
    Piece.content, Piece.expandedAgainAll, Piece.expandedAgain, hclosing, List.flatMap_append,
    List.flatMap_cons, List.flatMap_nil, List.count_append, List.count_nil, Bool.false_eq_true,
    if_false] at hcount hcountInside ⊢
  cases r.expandsAt expands opening with
  | true =>
    rw [if_pos rfl]
    omega
  | false =>
    rw [if_neg Bool.false_ne_true, List.count_nil]
    omega

end Add

/-- **One more node in front** adds the reports that are due. -/
theorem Reported.step (hr : r.MadeOf expands) (hinner : Echoes r source inner) {after : Expansion}
    {given : List Node} {pieces : List Piece} (hrecords : Records r given after.nodes pieces)
    (hsettled : Settled r after.nodes) (h : Reported r source expands pieces after.warnings)
    (n : Node) :
    Reported r source expands (traceBefore r source inner n pieces)
      (expandBefore r source inner n after).warnings := by
  obtain ⟨nodes, warnings⟩ := after
  obtain ⟨hpieces, rfl, -, -⟩ := hrecords
  have hkept := h.keep n
  cases hn : r.recognize? n with
  | none =>
    rw [expandBefore_none _ hn]
    simpa [traceBefore, hn, report_of_none hn] using hkept
  | some d =>
    have hmem := Registry.mem_of_recognize? hn
    have hopens := hr.makesNoOpening d.shortcode hmem
    cases hmake : d.shortcode.handler with
    | inline make =>
      rw [hmake] at hopens
      rw [expandBefore_inline _ hn hmake, traceBefore_inline _ hn hmake]
      refine h.inline ?_ (hr.inline_reports hmem hmake d.params rfl)
      rw [Registry.recognize?_withFallbackSpan]
      exact hopens _ _
    | block make =>
      rw [hmake] at hopens
      cases hdrop : pieces.dropWhile (!closes d.shortcode.name ·.node) with
      | nil =>
        rw [expandBefore_unterminated _ hn hmake (dropWhile_map_eq_nil hdrop)]
        simpa [traceBefore, Registry.report, hn, hmake, hdrop] using hkept
      | cons p rest =>
        obtain ⟨closing, rfl, hclosing, hsplit, htake, hrest⟩ := nearest_kept hpieces hdrop
        rw [expandBefore_block _ hn hmake hrest, traceBefore_block _ hn hmake hdrop]
        generalize pieces.takeWhile (!closes d.shortcode.name ·.node) = body at hsplit htake ⊢
        subst hsplit
        have hbody : Settled r (body.map Piece.node) := by
          rw [List.map_append] at hsettled
          exact settled_of_append_left hsettled
        have hexpands : r.expandsAt expands n = expands d.shortcode.name := by
          simp [Registry.expandsAt, hn]
        dsimp only
        rw [htake]
        refine h.block (report_of_none (r.recognize?_of_closes hclosing)) ?_ ?_
        · have hmade := ((hr.holdsTaken hinner hbody) _ hmem).2 make hmake d.params _ []
            ⟨d.shortcode.name, Span.merge? n.span closing.span,
              lineOf? source (Span.merge? n.span closing.span), inner⟩ (List.append_nil _).symm rfl
          rw [Piece.node, Piece.nodeAll_eq_map, ← box_eq hmade, Registry.recognize?_withFallbackSpan]
          exact hopens _ _ _
        · rw [hexpands]
          exact hr.block_reports hinner hmem hmake hbody d.params rfl rfl

/-- Expanding nodes has a history that records it, and reports that are due. -/
theorem reported_trace (hr : r.MadeOf expands) (hinner : Echoes r source inner)
    (nodes : List Node) :
    Records r nodes (expandFromRight r source inner nodes).nodes
        (nodes.foldr (traceBefore r source inner) []) ∧
      Reported r source expands (nodes.foldr (traceBefore r source inner) [])
        (expandFromRight r source inner nodes).warnings := by
  have hsettled : ∀ nodes, Settled r (expandFromRight r source inner nodes).nodes :=
    settled_expandFromRight hr.makesNoOpening
  have hrecords : ∀ nodes, Records r nodes (expandFromRight r source inner nodes).nodes
      (nodes.foldr (traceBefore r source inner) []) :=
    records_trace_of_holds fun after => hr.holdsTaken hinner (hsettled after)
  refine ⟨hrecords nodes, ?_⟩
  induction nodes with
  | nil => exact ⟨fun _ h => absurd h List.not_mem_nil, .refl _⟩
  | cons n rest ih => exact Reported.step hr hinner (hrecords rest) (hsettled rest) ih n

end History

/-- **Reports about openings without an end.**  In a registry of built-in shortcodes and of blocks that
expand what stands in them, the warnings about such openings are: one for each opening of a
registered shortcode that is left, at the top or in blocks that were made, and one more for each of
these that has a block right around it that expands.  So each is reported once just when there is
none of the latter; a block that does not expand, and a block further out, repeats nothing. -/
theorem expand_reports (r : Registry) (expands : String → Bool) (hr : r.MadeOf expands)
    (source : Option String) (nodes : List Node) :
    let pieces := r.trace source nodes
    let left := r.openingsIn (Piece.contentAll pieces)
    let again := r.openingsIn (Piece.expandedAgainAll r expands false pieces)
    let reports := (r.expand source nodes).warnings.filter r.isUnterminated
    (r.expand source nodes).nodes = pieces.map Piece.node ∧
      (Piece.cameAll pieces).map Prod.fst = nodes ∧
      reports.Perm ((left ++ again).flatMap (r.report source)) ∧
      again.Sublist left ∧
      reports.length = left.length + again.length ∧
      (reports.length = left.length ↔ again = []) := by
  intro pieces left again reports
  obtain ⟨hrecords, hreported⟩ : Records r nodes (r.expand source nodes).nodes pieces ∧
      Reported r source expands pieces (r.expand source nodes).warnings := by
    rw [Registry.expand_eq_expandFromRight]
    cases nodes with
    | nil =>
      exact ⟨⟨fun _ h => absurd h List.not_mem_nil, rfl, rfl, fun _ h => absurd h List.not_mem_nil⟩,
        fun _ h => absurd h List.not_mem_nil, .refl _⟩
    | cons n rest =>
      -- there is a node, and so a level at which handlers expand
      obtain ⟨levels, hlevels⟩ : ∃ levels, Node.countAll (n :: rest) = levels + 1 :=
        Nat.exists_eq_succ_of_ne_zero (Nat.ne_of_gt (countAll_cons_pos n rest))
      have hinner : Echoes r source (expandWithin r source (Node.countAll (n :: rest))) := by
        rw [hlevels]
        exact echoes_expandWithin r source levels
      exact reported_trace hr hinner (n :: rest)
  have hperm : reports.Perm ((left ++ again).flatMap (r.report source)) := by
    have h := hreported.reports
    rw [List.flatMap_append] at h ⊢
    rw [flatMap_report_openingsIn, flatMap_report_openingsIn]
    exact h
  have hlength : reports.length = left.length + again.length := by
    rw [hperm.length_eq, length_report, Registry.openingsIn, List.filter_append, List.length_append]
    simp only [left, again, Registry.openingsIn, List.filter_filter, Bool.and_self]
  refine ⟨hrecords.made.symm, hrecords.given, hperm, ?_, hlength, ?_⟩
  · exact (Piece.expandedAgainAll_sublist r expands false pieces).filter _
  · rw [hlength, ← List.length_eq_zero_iff]
    omega

/-- Parts expand what stands in them, and tips are built-in. -/
theorem madeOf_withParts : Registry.withParts.MadeOf (· == "part") := by
  intro s hs
  rcases List.mem_cons.1 hs with rfl | hs
  · rw [if_pos (by rfl)]
    exact ⟨_, rfl, fun _ _ _ => ⟨"section", Attributes.empty, none, rfl⟩⟩
  · rw [List.mem_singleton.1 hs]
    rw [if_neg (by decide)]
    exact .hint "tip"

/-- Of two openings without an end the one in a part is reported twice. -/
theorem expand_reports_openTips : Registry.withParts.MadeOf (· == "part") ∧
    ((Registry.withParts.expand none openTips).warnings.filter
      Registry.withParts.isUnterminated).length = 3 ∧
    Registry.withParts.openingsIn (Piece.contentAll (Registry.withParts.trace none openTips)) =
      [markerOf "tip", markerOf "tip"] := by
  obtain ⟨-, -, -, -, hlength, -⟩ :=
    expand_reports .withParts (· == "part") madeOf_withParts none openTips
  have hleft : Registry.withParts.openingsIn
      (Piece.contentAll (Registry.withParts.trace none openTips)) =
        [markerOf "tip", markerOf "tip"] := by decide +kernel
  have hagain : Registry.withParts.openingsIn (Piece.expandedAgainAll .withParts (· == "part") false
      (Registry.withParts.trace none openTips)) = [markerOf "tip"] := by decide +kernel
  rw [hleft, hagain] at hlength
  exact ⟨madeOf_withParts, hlength, hleft⟩

/-- A part with nothing in it but the opening of a tip. -/
def takenTip : List Node := [markerOf "part", markerOf "tip", markerOf "/part"]

/-- One opening is left, and there are two reports about it. -/
theorem takenTip_reported_twice : Registry.withParts.MadeOf (· == "part") ∧
    (Registry.withParts.expand none takenTip).nodes =
      [(Node.element "section" Attributes.empty).withChildren [markerOf "tip"]] ∧
    (Registry.withParts.expand none takenTip).warnings =
      ["\x7b\x7btip\x7d\x7d has no matching \x7b\x7b/tip\x7d\x7d",
        "\x7b\x7btip\x7d\x7d has no matching \x7b\x7b/tip\x7d\x7d"] :=
  ⟨madeOf_withParts, by decide +kernel, by decide +kernel⟩

end WikiPage.Shortcode
