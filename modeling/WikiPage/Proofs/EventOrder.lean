import WikiPage.Markdown.Tree
/-!
# The bytes of events

Every event of a page has its bytes of the source.  This file says when the bytes of a sequence of
events are those of constructs that stand in and behind one another.

* `Nested` sequences end what they start: `nested_eventsOf`, every page gives one.
* `inOrder` goes through any sequence and holds the bytes of each event against those of the
  innermost construct that has started, and of what came before in it.
* `Ordered` says the same of nested sequences, in which what a construct holds is a sequence of its
  own: `ordered_of_inOrder`.
-/

namespace WikiPage.Markdown

/-! ## 1. Nested events -/

/-- Whether an event stands for itself. -/
def Event.isLeaf : Event → Bool
  | start _ | finish _ => false
  | _ => true

/-- Whether events end what they start, the innermost construct first. -/
inductive Nested : List Located → Prop where
  | nil : Nested []
  | leaf (e : Located) {rest : List Located} (he : e.1.isLeaf = true) (hrest : Nested rest) :
      Nested (e :: rest)
  | framed (tag : Tag) (span : Span) {inner rest : List Located} (hinner : Nested inner)
      (hrest : Nested rest) : Nested (framed tag span inner ++ rest)

theorem Nested.append {a b : List Located} (ha : Nested a) (hb : Nested b) : Nested (a ++ b) := by
  induction ha with
  | nil => exact hb
  | leaf e he _ ih => exact .leaf e he ih
  | framed tag span hinner _ _ ih =>
    rw [List.append_assoc]
    exact .framed tag span hinner ih

theorem Nested.single {tag : Tag} {span : Span} {inner : List Located} (h : Nested inner) :
    Nested (Markdown.framed tag span inner) := by
  have := Nested.framed tag span h .nil
  rwa [List.append_nil] at this

/-- Events that stand for themselves are nested. -/
theorem nested_of_isLeaf : ∀ {events : List Located}, (∀ e ∈ events, e.1.isLeaf = true) →
    Nested events
  | [], _ => .nil
  | e :: rest, h => by
    obtain ⟨he, hrest⟩ := List.forall_mem_cons.1 h
    exact .leaf e he (nested_of_isLeaf hrest)

theorem nested_flatMap {α : Type} {f : α → List Located} : ∀ {xs : List α},
    (∀ x ∈ xs, Nested (f x)) → Nested (xs.flatMap f)
  | [], _ => .nil
  | x :: rest, h => by
    obtain ⟨hx, hrest⟩ := List.forall_mem_cons.1 h
    exact hx.append (nested_flatMap hrest)

mutual
/-- The events of running text are nested. -/
theorem Inline.nested_events : ∀ piece : Inline, Nested piece.events
  | .text _ _ | .code _ _ | .markup _ _ | .footnote _ _ | .softBreak _ | .hardBreak _ _ =>
    .leaf _ rfl .nil
  | .math _ display _ => by cases display <;> exact .leaf _ rfl .nil
  | .emphasis _ children => (Inline.nested_eventsAll children).single
  | .strong _ children => (Inline.nested_eventsAll children).single
  | .struck _ children => (Inline.nested_eventsAll children).single
  | .link _ _ _ children => (Inline.nested_eventsAll children).single
  | .image _ _ _ children => (Inline.nested_eventsAll children).single
theorem Inline.nested_eventsAll : ∀ pieces : List Inline, Nested (Inline.eventsAll pieces)
  | [] => .nil
  | piece :: rest => (Inline.nested_events piece).append (Inline.nested_eventsAll rest)
end

section Blocks

variable (ext : Extensions) (definitions : Definitions)

theorem Piece.isLeaf_event (code : Bool) (p : Piece) : (p.event code).1.isLeaf = true := by
  unfold Piece.event
  split <;> rfl

theorem nested_pieces (code : Bool) (pieces : List Piece) :
    Nested (pieces.map (Piece.event code)) := by
  refine nested_of_isLeaf fun e he => ?_
  obtain ⟨p, -, rfl⟩ := List.mem_map.1 he
  exact p.isLeaf_event code

theorem RunningText.nested_events (text : RunningText) : Nested (text.events ext definitions) :=
  Inline.nested_eventsAll _

theorem TableLine.nested_events (tag : Tag) (line : TableLine) :
    Nested (line.events ext definitions tag) :=
  (nested_flatMap fun _ _ => (RunningText.nested_events ext definitions _).single).single

mutual
/-- The events of a block are nested. -/
theorem Block.nested_events : ∀ block : Block, Nested (block.events ext definitions)
  | .paragraph span tight box text => by
    have hinner : Nested ((match box with
        | some (ticked, span) => [(Event.taskMarker ticked, span)]
        | none => []) ++ text.events ext definitions) := by
      refine Nested.append ?_ (text.nested_events ext definitions)
      cases box
      · exact .nil
      · exact .leaf _ rfl .nil
    cases tight
    · exact hinner.single
    · exact hinner
  | .heading _ _ _ text => (text.nested_events ext definitions).single
  | .quote _ _ children => (Block.nested_eventsAll children).single
  | .list _ _ items => (Block.nested_eventsAll items).single
  | .item _ children => (Block.nested_eventsAll children).single
  | .taskBox _ _ => .leaf _ rfl .nil
  | .code _ _ pieces => (nested_pieces true pieces).single
  | .raw _ pieces => (nested_pieces false pieces).single
  | .rule _ => .leaf _ rfl .nil
  | .table _ _ head rows =>
    ((head.nested_events ext definitions _).append
      (nested_flatMap fun row _ => row.nested_events ext definitions _)).single
  | .footnote _ _ children => (Block.nested_eventsAll children).single
theorem Block.nested_eventsAll : ∀ blocks : List Block,
    Nested (Block.eventsAll ext definitions blocks)
  | [] => .nil
  | block :: rest => (Block.nested_events block).append (Block.nested_eventsAll rest)
end

end Blocks

/-- **The events of a page are nested.** -/
theorem nested_eventsOf (ext : Extensions) (source : String) : Nested (eventsOf ext source) :=
  Block.nested_eventsAll _ _ _

/-! ## 2. Bytes in order -/

/-- Whether the bytes of events are in order: those of each event, from start to end, lie in the
innermost construct that has started, and behind what came before in it.  Here `cursor` is where the
bytes before end, `stop` where the innermost construct ends, and `outer` where those around it end;
the end of a construct has no bytes of its own. -/
def inOrder : (cursor stop : Nat) → (outer : List Nat) → List Located → Bool
  | _, _, _, [] => true
  | cursor, stop, outer, (event, s) :: rest =>
    match event with
    | .finish _ =>
      match outer with
      | [] => inOrder cursor stop [] rest
      | around :: outer => inOrder stop around outer rest
    | .start _ =>
      decide (cursor ≤ s.start ∧ s.start ≤ s.stop ∧ s.stop ≤ stop) &&
        inOrder s.start s.stop (stop :: outer) rest
    | _ =>
      decide (cursor ≤ s.start ∧ s.start ≤ s.stop ∧ s.stop ≤ stop) && inOrder s.stop stop outer rest

/-- Nested events whose bytes are in order from one place to another. -/
inductive Ordered : (lo hi : Nat) → List Located → Prop where
  | nil {lo hi : Nat} (h : lo ≤ hi) : Ordered lo hi []
  | leaf {lo hi : Nat} (event : Event) (s : Span) {rest : List Located} (he : event.isLeaf = true)
      (hlo : lo ≤ s.start) (hs : s.start ≤ s.stop) (hrest : Ordered s.stop hi rest) :
      Ordered lo hi ((event, s) :: rest)
  | framed {lo hi : Nat} (tag : Tag) (s : Span) {inner rest : List Located} (hlo : lo ≤ s.start)
      (hinner : Ordered s.start s.stop inner) (hrest : Ordered s.stop hi rest) :
      Ordered lo hi (framed tag s inner ++ rest)

theorem Ordered.mono {lo hi hi' : Nat} {events : List Located} (h : Ordered lo hi events)
    (hle : hi ≤ hi') : Ordered lo hi' events := by
  induction h with
  | nil h => exact .nil (by omega)
  | leaf event s he hlo hs _ ih => exact .leaf event s he hlo hs (ih hle)
  | framed tag s hlo hinner _ _ ih => exact .framed tag s hlo hinner (ih hle)

theorem inOrder_leaf {event : Event} (he : event.isLeaf = true) {cursor stop : Nat}
    {outer : List Nat} {s : Span} {rest : List Located} :
    inOrder cursor stop outer ((event, s) :: rest) = true ↔
      (cursor ≤ s.start ∧ s.start ≤ s.stop ∧ s.stop ≤ stop) ∧
        inOrder s.stop stop outer rest = true := by
  cases event with
  | start tag => cases he
  | finish tag => cases he
  | _ => exact Bool.and_eq_true_iff.trans (and_congr_left' decide_eq_true_iff)

/-- When a construct has ended, the bytes behind it begin where it ends. -/
theorem inOrder_framed (tag : Tag) {cursor stop : Nat} {outer : List Nat} {s : Span}
    {inner rest : List Located} :
    inOrder cursor stop outer (framed tag s inner ++ rest) = true ↔
      (cursor ≤ s.start ∧ s.start ≤ s.stop ∧ s.stop ≤ stop) ∧
        inOrder s.start s.stop (stop :: outer) (inner ++ (.finish tag, s) :: rest) = true := by
  rw [framed, List.append_assoc, List.cons_append, inOrder, Bool.and_eq_true, decide_eq_true_iff]
  rfl

/-- Nested events in front of others are in order up to some place, and the others from there. -/
theorem ordered_append_of_inOrder {events : List Located} (h : Nested events) :
    ∀ {cursor stop : Nat} {outer : List Nat} {after : List Located}, cursor ≤ stop →
      inOrder cursor stop outer (events ++ after) = true →
      ∃ mid, Ordered cursor mid events ∧ mid ≤ stop ∧ inOrder mid stop outer after = true := by
  induction h with
  | nil => exact fun hle hafter => ⟨_, .nil (Nat.le_refl _), hle, hafter⟩
  | leaf e he _ ih =>
    intro cursor stop outer after _ hevents
    obtain ⟨event, s⟩ := e
    obtain ⟨⟨hlo, hs, hstop⟩, hrest⟩ := (inOrder_leaf he).1 hevents
    obtain ⟨mid, hordered, hmid, hafter⟩ := ih hstop hrest
    exact ⟨mid, .leaf event s he hlo hs hordered, hmid, hafter⟩
  | @framed tag s inner rest _ _ ihinner ih =>
    intro cursor stop outer after _ hevents
    rw [List.append_assoc] at hevents
    obtain ⟨⟨hlo, hs, hstop⟩, hheld⟩ := (inOrder_framed tag).1 hevents
    obtain ⟨_, hinner, hend, hbehind⟩ := ihinner hs hheld
    obtain ⟨mid, hordered, hmid, hafter⟩ := ih hstop hbehind
    exact ⟨mid, .framed tag s hlo (hinner.mono hend) hordered, hmid, hafter⟩

/-- **Nested events whose bytes are in order** lie between their bounds. -/
theorem ordered_of_inOrder {size : Nat} {events : List Located} (h : Nested events)
    (horder : inOrder 0 size [] events = true) : Ordered 0 size events := by
  rw [← List.append_nil events] at horder
  obtain ⟨mid, hordered, hmid, -⟩ := ordered_append_of_inOrder h (Nat.zero_le _) horder
  exact hordered.mono hmid

end WikiPage.Markdown
