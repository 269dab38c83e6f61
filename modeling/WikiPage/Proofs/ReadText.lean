import WikiPage.Proofs.ReadTrees
/-!
# The text of a page that is read

The text of a tree is that of the events it was read from, in their order, whether or not what
starts is finished and what is finished has started.  A tree that is being built has its text too:
what is open is written from the outside in, each construct behind what was read before it.

* `Assembly.plainText` is this text, and `plainText_step` the step lemma: an event adds its own text
  at the end.  A block of code is the place where this might fail, as its code comes before what it
  holds; `CodeInner` says that it holds nothing.
* `exists_feed` is the run: events within the limit are all taken in.
* `plainText_autolink`: links for addresses leave the text as it is.
* `plainText_treeOfEvents` puts these together.
-/

namespace WikiPage

namespace NodeKind

/-- Whether this is the kind of a block of code. -/
def isCode : NodeKind → Bool
  | codeBlock .. => true
  | _ => false

end NodeKind

namespace Node

theorem plainTextAll_append (a b : List Node) :
    plainTextAll (a ++ b) = plainTextAll a ++ plainTextAll b := by
  induction a with
  | nil => simp [plainTextAll]
  | cons n a ih => simp only [List.cons_append, plainTextAll, ih, String.append_assoc]

theorem plainText_eq (n : Node) : n.plainText = n.kind.ownText ++ plainTextAll n.children := by
  cases n
  rfl

end Node

namespace Markdown

open Node

/-! ## 1. The text of events -/

/-- The text of an event: a break is a space. -/
def Event.ownText : Event → String
  | .text value | .code value | .inlineMath value | .displayMath value => value
  | .softBreak | .hardBreak => " "
  | _ => ""

/-- The texts of events, one after the other. -/
def eventsText : List Located → String
  | [] => ""
  | (event, _) :: rest => event.ownText ++ eventsText rest

/-- Whether an event opens a construct that is counted. -/
def Event.opens : Event → Bool
  | .start tag => tag.kind?.isSome
  | _ => false

/-- How many constructs are open after an event. -/
def openAfter (opened : Nat) : Event → Nat
  | .start tag => if tag.kind?.isSome then opened + 1 else opened
  | .finish tag => if tag.kind?.isSome then opened - 1 else opened
  | _ => opened

/-- Whether no construct starts where as many as the limit allows are open. -/
def withinLimit (limit : Nat) : (opened : Nat) → List Located → Bool
  | _, [] => true
  | opened, (event, _) :: rest =>
    (!event.opens || decide (opened < limit)) && withinLimit limit (openAfter opened event) rest

/-- Whether a construct is a block of code. -/
def Tag.isCode : Tag → Bool
  | codeBlock _ => true
  | _ => false

/-- Whether one is inside a block of code after an event; nothing when the event may not stand
there. -/
def codeAfter (inCode : Bool) : Event → Option Bool
  | .start tag => if inCode then none else some tag.isCode
  | .finish tag => some (inCode && tag.kind?.isNone)
  | .text _ => some inCode
  | _ => if inCode then none else some false

/-- Whether nothing but text stands inside blocks of code. -/
def onlyTextInCode : (inCode : Bool) → List Located → Bool
  | _, [] => true
  | inCode, (event, _) :: rest =>
    match codeAfter inCode event with
    | some inCode => onlyTextInCode inCode rest
    | none => false

/-! ## 2. The text of a tree that is being built -/

/-- The text of an open node so far. -/
def OpenNode.plainText (o : OpenNode) : String :=
  o.kind.ownText ++ plainTextAll o.reversed.reverse

/-- The text of open constructs, the outermost first. -/
def openText : List OpenNode → String
  | [] => ""
  | o :: outer => openText outer ++ o.plainText

/-- The text of all that was read so far. -/
def Assembly.plainText (a : Assembly) : String := a.top.plainText ++ openText a.opened

/-- Runs that are joined have the text of both. -/
theorem OpenNode.plainText_joined? {a b both : Node} (ha : AsRead a) (hb : AsRead b)
    (h : joined? a b = some both) : both.plainText = a.plainText ++ b.plainText := by
  obtain ⟨kind, children, span⟩ := a
  obtain ⟨kind', children', span'⟩ := b
  unfold joined? at h
  split at h
  · rename_i x y hx hy
    obtain rfl : kind = .text x := hx
    obtain rfl : kind' = .text y := hy
    obtain rfl : children = [] := ha.leaf rfl
    obtain rfl : children' = [] := hb.leaf rfl
    cases h
    simp [plainText_eq, plainTextAll, NodeKind.ownText, NodeKind.textValue]
  · rename_i x y hx hy
    obtain rfl : kind = .html x := hx
    obtain rfl : kind' = .html y := hy
    obtain rfl : children = [] := ha.leaf rfl
    obtain rfl : children' = [] := hb.leaf rfl
    cases h
    simp [plainText_eq, plainTextAll, NodeKind.ownText]
  · cases h

/-- A child at the end adds its text there. -/
theorem OpenNode.plainText_add {o : OpenNode} (ho : ∀ c ∈ o.reversed, c.Everywhere AsRead)
    {child : Node} (hchild : child.Everywhere AsRead) :
    (o.add child).plainText = o.plainText ++ child.plainText := by
  obtain ⟨kind, span, _ | ⟨last, earlier⟩⟩ := o
  · simp [OpenNode.add, OpenNode.plainText, plainTextAll]
  · have hlast : AsRead last := (everywhere_iff.1 (ho last List.mem_cons_self)).1
    simp only [OpenNode.add]
    split
    · rename_i both hboth
      have hjoined := plainText_joined? hlast (everywhere_iff.1 hchild).1 hboth
      simp [OpenNode.plainText, plainTextAll_append, plainTextAll, hjoined, String.append_assoc]
    · simp [OpenNode.plainText, plainTextAll_append, plainTextAll, String.append_assoc]

namespace Assembly

variable {limit : Nat} {a : Assembly}

/-- A child of the innermost open node adds its text behind all that was read before. -/
theorem plainText_add (h : a.AllRead limit) {child : Node}
    (hchild : child.Everywhere AsRead) :
    (a.add child).plainText = a.plainText ++ child.plainText := by
  obtain ⟨top, _ | ⟨inner, outer⟩⟩ := a
  · have htop := OpenNode.plainText_add h.top hchild
    simp [add, plainText, openText, htop]
  · have hinner := OpenNode.plainText_add h.opened.1.2 hchild
    simp [add, plainText, openText, hinner, String.append_assoc]

/-- A construct that is closed has the text that it had. -/
theorem plainText_closeInner (h : a.AllRead limit) :
    a.closeInner.plainText = a.plainText := by
  obtain ⟨top, _ | ⟨inner, outer⟩⟩ := a
  · rfl
  · obtain ⟨⟨hkind, hchildren⟩, houter⟩ := h.opened
    have hclosed : inner.close.Everywhere AsRead :=
      asRead_container hkind (fun c hc => hchildren c (List.mem_reverse.1 hc)) _
    have hrest : AllRead limit ⟨top, outer⟩ := ⟨h.top, houter, Nat.le_of_succ_le h.count⟩
    rw [closeInner, plainText_add hrest hclosed, plainText, plainText, openText,
      String.append_assoc]
    rfl

theorem plainText_closeMany : ∀ (n : Nat) {a : Assembly}, a.AllRead limit →
    (closeMany n a).plainText = a.plainText
  | 0, _, _ => rfl
  | n + 1, _, h =>
    (plainText_closeMany n (h.closeInner (kept_asRead limit))).trans (plainText_closeInner h)

/-! ## 3. One event -/

/-- Which of the open constructs are blocks of code: none, or the innermost, which holds nothing but
its code. -/
def CodeInner (opened : List OpenNode) : (inCode : Bool) → Prop
  | false => ∀ o ∈ opened, o.kind.isCode = false
  | true => ∃ lang code span outer, opened = ⟨.codeBlock lang code, span, []⟩ :: outer ∧
      ∀ o ∈ outer, o.kind.isCode = false

theorem codeInner_add (h : CodeInner a.opened false) (child : Node) :
    CodeInner (a.add child).opened false := by
  obtain ⟨top, _ | ⟨inner, outer⟩⟩ := a
  · exact h
  · obtain ⟨hinner, houter⟩ := List.forall_mem_cons.1 h
    refine List.forall_mem_cons.2 ⟨?_, houter⟩
    rw [OpenNode.kind_add]
    exact hinner

theorem codeInner_closeInner {inCode : Bool} (h : CodeInner a.opened inCode) :
    CodeInner a.closeInner.opened false := by
  obtain ⟨top, _ | ⟨inner, outer⟩⟩ := a
  · exact fun _ ho => absurd ho List.not_mem_nil
  · have houter : ∀ o ∈ outer, o.kind.isCode = false := by
      cases inCode with
      | false => exact (List.forall_mem_cons.1 h).2
      | true =>
        obtain ⟨_, _, _, _, heq, hothers⟩ := h
        cases heq
        exact hothers
    exact codeInner_add (a := ⟨top, outer⟩) houter inner.close

/-- A leaf outside of code adds its text. -/
theorem leaf_spec (hall : a.AllRead limit) (hcode : CodeInner a.opened false)
    {kind : NodeKind} (hkind : kind.isLeaf = true) (span : Span) :
    (a.leaf kind span).plainText = a.plainText ++ kind.ownText ∧
      CodeInner (a.leaf kind span).opened false ∧
      (a.leaf kind span).opened.length = a.opened.length := by
  refine ⟨?_, codeInner_add hcode _, open_add _ _⟩
  rw [leaf, plainText_add hall (asRead_leaf hkind _), plainText_eq]
  simp [plainTextAll]

/-- A run of text adds itself, in a block of code and outside. -/
theorem text_spec (hall : a.AllRead limit) {inCode : Bool}
    (hcode : CodeInner a.opened inCode) (value : String) (span : Span) :
    (a.text value span).plainText = a.plainText ++ value ∧
      CodeInner (a.text value span).opened inCode ∧
      (a.text value span).opened.length = a.opened.length := by
  cases inCode with
  | true =>
    obtain ⟨lang, code, block, outer, hopened, houter⟩ := hcode
    obtain ⟨top, opened⟩ := a
    obtain rfl : opened = _ := hopened
    refine ⟨?_, ⟨lang, code ++ value, block, outer, rfl, houter⟩, rfl⟩
    simp [text, plainText, openText, OpenNode.plainText, plainTextAll, NodeKind.ownText,
      NodeKind.textValue, String.append_assoc]
  | false =>
    have htext : a.text value span = a.leaf (.text value) span := by
      unfold text
      split
      · rename_i top lang code block children outer
        have := hcode _ List.mem_cons_self
        cases this
      · rfl
    rw [htext]
    exact leaf_spec hall hcode rfl span

theorem isCode_of_kind? {tag : Tag} {kind : NodeKind} (h : tag.kind? = some kind) :
    kind.isCode = tag.isCode ∧ kind.ownText = "" := by
  cases tag <;> cases h <;> exact ⟨rfl, rfl⟩

theorem isCode_of_kind?_eq_none {tag : Tag} (h : tag.kind? = none) : tag.isCode = false := by
  cases tag <;> first | rfl | cases h

/-- A construct that may start is open then, and has no text yet. -/
theorem exists_start (hcode : CodeInner a.opened false) {tag : Tag} (span : Span)
    (hlimit : tag.kind?.isSome = true → a.opened.length < limit) :
    ∃ b, a.start limit tag span = .ok b ∧ b.plainText = a.plainText ∧
      CodeInner b.opened tag.isCode ∧
      b.opened.length = openAfter a.opened.length (.start tag) := by
  unfold start openAfter
  dsimp only
  cases hkind : tag.kind? with
  | none =>
    refine ⟨a, rfl, rfl, ?_, rfl⟩
    rw [isCode_of_kind?_eq_none hkind]
    exact hcode
  | some kind =>
    obtain ⟨hisCode, hempty⟩ := isCode_of_kind? hkind
    have hlt : a.opened.length < limit := hlimit (by rw [hkind]; rfl)
    refine ⟨_, if_pos hlt, ?_, ?_, rfl⟩
    · simp [plainText, openText, OpenNode.plainText, plainTextAll, hempty]
    · rw [← hisCode]
      cases hblock : kind.isCode with
      | false => exact List.forall_mem_cons.2 ⟨hblock, hcode⟩
      | true =>
        obtain ⟨lang, code, rfl⟩ : ∃ lang code, kind = .codeBlock lang code := by
          cases kind <;> first | exact ⟨_, _, rfl⟩ | cases hblock
        exact ⟨lang, code, span, a.opened, rfl, hcode⟩

/-- What ends is closed, and its text stays. -/
theorem finish_spec (hall : a.AllRead limit) {inCode : Bool}
    (hcode : CodeInner a.opened inCode) (tag : Tag) :
    (a.finish tag).plainText = a.plainText ∧
      CodeInner (a.finish tag).opened (inCode && tag.kind?.isNone) ∧
      (a.finish tag).opened.length = openAfter a.opened.length (.finish tag) := by
  unfold finish openAfter
  dsimp only
  cases tag.kind? with
  | none =>
    rw [Option.isNone_none, Bool.and_true]
    exact ⟨rfl, hcode, rfl⟩
  | some kind =>
    rw [Option.isNone_some, Bool.and_false]
    exact ⟨plainText_closeInner hall, codeInner_closeInner hcode, open_closeInner a⟩

/-- **One event** that may stand where it does is taken in, and adds its text at the end. -/
theorem plainText_step (hall : a.AllRead limit) {inCode next : Bool}
    (hcode : CodeInner a.opened inCode) {event : Event} (span : Span)
    (hlimit : event.opens = true → a.opened.length < limit)
    (hnext : codeAfter inCode event = some next) :
    ∃ b, a.step limit (event, span) = .ok b ∧ b.plainText = a.plainText ++ event.ownText ∧
      CodeInner b.opened next ∧ b.opened.length = openAfter a.opened.length event := by
  cases event with
  | start tag =>
    cases inCode with
    | true => cases hnext
    | false =>
      cases hnext
      obtain ⟨b, hb, htext, hinner⟩ := exists_start hcode span hlimit
      refine ⟨b, hb, ?_, hinner⟩
      rw [htext]
      exact (String.append_empty).symm
  | finish tag =>
    cases hnext
    obtain ⟨htext, hinner⟩ := finish_spec hall hcode tag
    refine ⟨_, rfl, ?_, hinner⟩
    rw [htext]
    exact (String.append_empty).symm
  | text value =>
    cases hnext
    exact ⟨_, rfl, text_spec hall hcode value span⟩
  | _ =>
    -- the other events are leaves, which do not stand in code
    cases inCode with
    | true => cases hnext
    | false =>
      cases hnext
      exact ⟨_, rfl, leaf_spec hall hcode rfl span⟩

/-! ## 4. A run of events -/

/-- **Events within the limit are all taken in**, and their texts are those of what was built. -/
theorem exists_feed : ∀ {events : List Located} {a : Assembly} {inCode : Bool},
    a.AllRead limit → CodeInner a.opened inCode →
      withinLimit limit a.opened.length events = true → onlyTextInCode inCode events = true →
      ∃ b, a.feed limit events = .ok b ∧ b.AllRead limit ∧
        b.plainText = a.plainText ++ eventsText events
  | [], a, _, hall, _, _, _ => ⟨a, rfl, hall, (String.append_empty).symm⟩
  | (event, span) :: rest, a, inCode, hall, hcode, hlimit, honly => by
    rw [withinLimit, Bool.and_eq_true] at hlimit
    rw [onlyTextInCode] at honly
    cases hnext : codeAfter inCode event with
    | none =>
      rw [hnext] at honly
      cases honly
    | some next =>
      rw [hnext] at honly
      have hroom : event.opens = true → a.opened.length < limit := by
        intro hopens
        simpa [hopens] using hlimit.1
      obtain ⟨b, hb, htext, hinner, hopened⟩ := plainText_step hall hcode span hroom hnext
      rw [← hopened] at hlimit
      obtain ⟨c, hc, hall', htexts⟩ :=
        exists_feed (all_step (kept_asRead limit) hall hb) hinner hlimit.2 honly
      refine ⟨c, ?_, hall', ?_⟩
      · show (a.step limit (event, span) >>= fun b => b.feed limit rest) = .ok c
        rw [hb]
        exact hc
      · rw [htexts, htext, eventsText, String.append_assoc]

end Assembly

end Markdown

/-! ## 5. Links for addresses -/

namespace Links

open Node

/-- The nodes that stand for the parts of a text have the text of the parts. -/
theorem plainTextAll_partNodes (base : Option Nat) : ∀ (offset : Nat) (parts : List LinkedPart),
    plainTextAll (partNodes base offset parts) =
      String.ofList (parts.flatMap LinkedPart.text)
  | _, [] => rfl
  | offset, ⟨target, text⟩ :: rest => by
    have ih := plainTextAll_partNodes base (offset + Text.byteLength text) rest
    simp only [partNodes, plainTextAll, ih, List.flatMap_cons, String.ofList_append]
    cases target <;>
      simp [plainText_eq, plainTextAll, Node.link, Node.text, ofKind, withSpan, NodeKind.ownText,
        NodeKind.textValue]

/-- What stands for a text with addresses has the text of it. -/
theorem plainTextAll_splitText? {n : Node} (hn : n.children = []) {nodes : List Node}
    (h : splitText? n = some nodes) : plainTextAll nodes = n.plainText := by
  obtain ⟨value, base, hkind, -, rfl⟩ := splitTextWith?_eq_some h
  rw [plainTextAll_partNodes, text_linked, text_cuts, plainText_eq, hn, hkind]
  simp [plainTextAll, NodeKind.ownText, NodeKind.textValue]

mutual
/-- **Links for addresses leave the text as it is**, where texts hold nothing. -/
theorem plainText_autolink : ∀ n : Node, (∀ c ∈ n.children, c.Everywhere Markdown.AsRead) →
    (autolink n).plainText = n.plainText
  | ⟨kind, children, span⟩, h => by
    rw [autolink_mk, plainText, plainText, plainTextAll_autolinkAll (labels kind) children h]
theorem plainTextAll_autolinkAll (label : Bool) : ∀ ns : List Node,
    (∀ n ∈ ns, n.Everywhere Markdown.AsRead) → plainTextAll (autolinkAll label ns) = plainTextAll ns
  | [], _ => rfl
  | n :: rest, h => by
    obtain ⟨hn, hrest⟩ := List.forall_mem_cons.1 h
    obtain ⟨hself, hchildren⟩ := everywhere_iff.1 hn
    have ih := plainTextAll_autolinkAll label rest hrest
    obtain hall | ⟨nodes, -, hsplit, hall⟩ := autolinkAll_cons_cases label n rest <;> rw [hall]
    · rw [plainTextAll, plainTextAll, plainText_autolink n hchildren, ih]
    · obtain ⟨value, -, hkind, -⟩ := splitTextWith?_eq_some hsplit
      have hleaf : n.children = [] := hself.leaf (by rw [hkind]; rfl)
      rw [plainTextAll_append, plainTextAll_splitText? hleaf hsplit, ih, plainTextAll]
end

end Links

namespace Markdown

open Node

/-- **No text is lost between events and tree.**  Events of which no start exceeds the limit, with
nothing but text inside blocks of code, give a tree, be they balanced or not, and the text of the
tree is that of the events in their order, a space for each break among it.  Links for addresses do
not change it. -/
theorem plainText_treeOfEvents (size : Nat) {limit : Nat} {events : List Located}
    (hlimit : withinLimit limit 0 events = true) (hcode : onlyTextInCode false events = true) :
    ∃ tree, treeOfEvents size limit events = .ok tree ∧ tree.plainText = eventsText events ∧
      (Links.autolink tree).plainText = eventsText events := by
  have hall : (Assembly.empty size).AllRead limit := Assembly.all_empty limit _ size
  have hinner : Assembly.CodeInner (Assembly.empty size).opened false :=
    fun _ ho => absurd ho List.not_mem_nil
  obtain ⟨a, ha, hread, htext⟩ := Assembly.exists_feed hall hinner hlimit hcode
  have htree : treeOfEvents size limit events = .ok a.close := by
    rw [treeOfEvents, ha]
    rfl
  have hclosed : a.close.plainText = eventsText events := by
    have hempty : (Assembly.empty size).plainText = "" := rfl
    have hopened := Assembly.opened_closeMany a.opened.length a (Nat.le_refl _)
    have hsame := Assembly.plainText_closeMany a.opened.length hread
    rw [Assembly.plainText, hopened, openText, String.append_empty, htext, hempty,
      String.empty_append] at hsame
    exact hsame
  refine ⟨a.close, htree, hclosed, ?_⟩
  rw [Links.plainText_autolink a.close (asRead_treeOfEvents htree), hclosed]

/-- Events that are not balanced: one end too many, one end of another construct, and two ends
missing. -/
def looseEvents : List Located :=
  [.finish .paragraph, .start .paragraph, .text "at ", .text "www.example.com", .softBreak,
    .html "<b>", .code "x", .start (.codeBlock none), .text "y\n", .text "z\n", .finish .item,
    .inlineMath "m", .start .emphasis, .hardBreak, .displayMath "n"].map (·, ⟨0, 0⟩)

/-- The text is that of the events before and after an address in it is linked. -/
theorem plainText_looseEvents : withinLimit 2 0 looseEvents = true ∧
    onlyTextInCode false looseEvents = true ∧
    ∃ tree, treeOfEvents 0 2 looseEvents = .ok tree ∧
      tree.plainText = "at www.example.com xy\nz\nm n" ∧
      (Links.autolink tree).plainText = "at www.example.com xy\nz\nm n" := by
  have hlimit : withinLimit 2 0 looseEvents = true := by decide
  have hcode : onlyTextInCode false looseEvents = true := by decide
  have htext : eventsText looseEvents = "at www.example.com xy\nz\nm n" := by decide +kernel
  obtain ⟨tree, htree, hbefore, hafter⟩ := plainText_treeOfEvents 0 hlimit hcode
  exact ⟨hlimit, hcode, tree, htree, hbefore.trans htext, hafter.trans htext⟩

end Markdown

end WikiPage
