import WikiPage.Markdown.Emphasis
import Mathlib.Data.List.Pairwise
/-!
# Runs of underscores

A run of underscores may open emphasis where no word ends before it, and may close emphasis where
no word begins after it.  In running text with no other marks, there is emphasis exactly when one of
the runs may be closed by a later one.

* `Underscores.pairs`: whether a run may close an earlier one.
* `Spells`: text and runs in a row, the characters they stand for, and their bytes.
* `resolve_of_unpaired`: no two runs pair, and all of the text stays plain.
* `resolve_of_paired`: some do, and there is emphasis in the text.
-/

namespace WikiPage.Markdown

/-! ## 1. Runs in a text -/

/-- A run of underscores, and whether it may open and close emphasis. -/
structure Underscores where
  count : Nat
  opens : Bool
  closes : Bool
  deriving DecidableEq, Repr, Inhabited

namespace Underscores

/-- A run after the end of a word, or after something else, and before a character or the end of
the text. -/
def between (afterWord : Bool) (count : Nat) (next : Option Char) : Underscores :=
  ⟨count, !afterWord && next.isSome, next.all (!·.isAlphanum)⟩

/-- Whether a run may close an earlier one.  If one of the two may both open and close, their lengths
may not add up to a multiple of three unless both are such multiples. -/
def pairs (a b : Underscores) : Bool :=
  a.opens && b.closes &&
    (!(b.opens && b.closes) && !(a.opens && a.closes) || (b.count + a.count) % 3 != 0 ||
      b.count % 3 == 0)

/-- Whether a run may do anything. -/
def marks (u : Underscores) : Bool := u.opens || u.closes

end Underscores

/-- The runs of underscores of a text.  The text stands after `count` underscores, and these stand
after the end of a word or after something else. -/
def underscores : (afterWord : Bool) → (count : Nat) → List Char → List Underscores
  | afterWord, count, [] => if count = 0 then [] else [.between afterWord count none]
  | afterWord, count, c :: rest =>
    if c = '_' then underscores afterWord (count + 1) rest
    else
      (if count = 0 then [] else [.between afterWord count (some c)]) ++
        underscores c.isAlphanum 0 rest

/-- Underscores that go on with a run belong to it. -/
theorem underscores_replicate (afterWord : Bool) (m : Nat) (rest : List Char) : ∀ count,
    underscores afterWord count (List.replicate m '_' ++ rest) =
      underscores afterWord (count + m) rest := by
  induction m with
  | zero => exact fun count => rfl
  | succ m ih =>
    intro count
    rw [List.replicate_succ, List.cons_append, underscores, if_pos rfl, ih, Nat.add_assoc,
      Nat.add_comm 1]

/-- A run ends before anything else. -/
theorem underscores_run {afterWord : Bool} {count : Nat} (hcount : 0 < count) {rest : List Char}
    (hrest : rest.head? ≠ some '_') : underscores afterWord count rest =
      .between afterWord count rest.head? :: underscores false 0 rest := by
  have hne : count ≠ 0 := Nat.ne_of_gt hcount
  cases rest with
  | nil => simp [underscores, hne]
  | cons c rest =>
    have hc : c ≠ '_' := fun h => hrest (by rw [h]; rfl)
    simp [underscores, hne, hc]

/-- A text that begins with a run has this run and those of the rest. -/
theorem underscores_cons_run (afterWord : Bool) (m : Nat) {rest : List Char}
    (hrest : rest.head? ≠ some '_') :
    underscores afterWord 0 ('_' :: (List.replicate m '_' ++ rest)) =
      .between afterWord (m + 1) rest.head? :: underscores false 0 rest := by
  refine (underscores_replicate afterWord (m + 1) rest 0).trans ?_
  rw [Nat.zero_add, underscores_run (Nat.succ_pos m) hrest]

/-- Runs that may do nothing pair with none. -/
theorem pairwise_filter_marks {runs : List Underscores} :
    (runs.filter Underscores.marks).Pairwise (fun a b => a.pairs b = false) ↔
      runs.Pairwise fun a b => a.pairs b = false := by
  rw [List.pairwise_filter]
  refine ⟨List.Pairwise.imp fun {a b} h => ?_, List.Pairwise.imp fun {a b} h _ _ => h⟩
  cases ha : a.marks with
  | false => simp [Underscores.pairs, (Bool.or_eq_false_iff.1 ha).1]
  | true =>
    cases hb : b.marks with
    | false => simp [Underscores.pairs, (Bool.or_eq_false_iff.1 hb).2]
    | true => exact h ha hb

/-! ## 2. Pieces and open runs -/

/-- What a run of marks is, if its marks are underscores. -/
def MarkRun.underscores (r : MarkRun) : Underscores := ⟨r.count, r.opens, r.closes⟩

/-- A run of underscores that begins at an offset. -/
def Underscores.run (u : Underscores) (start : Nat) : MarkRun :=
  ⟨'_', u.count, u.opens, u.closes, start⟩

namespace Emphasis

/-- Whether a piece is emphasis of some kind. -/
def isStressed : Inline → Bool
  | .emphasis .. | .strong .. | .struck .. => true
  | _ => false

/-- The pieces there are, the last one first, if no open run is closed any more. -/
def State.given (s : State) : List Inline := giveUp s.pieces s.openers

/-- Whether some of the text has become emphasis for good. -/
def State.Stressed (s : State) : Prop := ∃ piece ∈ s.given, isStressed piece = true

theorem giveUp_append (a b : List Inline) (openers : List Opener) :
    giveUp (a ++ b) openers = a ++ giveUp b openers := by
  induction openers generalizing b with
  | nil => rfl
  | cons o rest ih => rw [giveUp, List.append_assoc, ih, giveUp]

theorem giveUp_cons (piece : Inline) (pieces : List Inline) (openers : List Opener) :
    giveUp (piece :: pieces) openers = piece :: giveUp pieces openers :=
  giveUp_append [piece] pieces openers

/-- Emphasis since the innermost open run is there for good. -/
theorem State.Stressed.of_mem {s : State} {piece : Inline} (h : piece ∈ s.pieces)
    (hpiece : isStressed piece = true) : s.Stressed := by
  refine ⟨piece, ?_, hpiece⟩
  rw [given, ← List.append_nil s.pieces, giveUp_append]
  exact List.mem_append_left _ h

/-- A piece that is added takes none away. -/
theorem State.Stressed.add {s : State} (h : s.Stressed) (piece : Inline) :
    State.Stressed { s with pieces := piece :: s.pieces } := by
  obtain ⟨p, hp, hstressed⟩ := h
  refine ⟨p, ?_, hstressed⟩
  rw [given, giveUp_cons]
  exact List.mem_cons_of_mem _ hp

/-- Pieces between marks become one piece of emphasis. -/
theorem wrap_spec (mark : Char) : ∀ (n left right : Nat) (pieces : List Inline),
    (0 < n ∨ ∃ piece, pieces = [piece] ∧ isStressed piece = true) →
      ∃ piece, wrap mark n left right pieces = [piece] ∧ isStressed piece = true
  | 0, _, _, _, h => h.resolve_left (Nat.lt_irrefl 0)
  | 1, _, _, _, _ => by
    refine ⟨_, rfl, ?_⟩
    split <;> rfl
  | n + 2, left, right, pieces, _ => by
    refine wrap_spec mark n _ _ _ (.inr ⟨_, rfl, ?_⟩)
    split <;> rfl

/-- An open run of underscores with marks left. -/
structure Opener.Waits (o : Opener) : Prop where
  mark : o.run.mark = '_'
  opens : o.run.opens = true
  count : 0 < o.run.count

/-- Whether all open runs are runs of underscores with marks left. -/
def State.Waits (s : State) : Prop := ∀ o ∈ s.openers, o.Waits

theorem State.waits_empty : State.Waits {} := fun _ ho => absurd ho List.not_mem_nil

/-- What an open run of underscores was at first. -/
def Opener.underscores (o : Opener) : Underscores := ⟨o.length, o.run.opens, o.run.closes⟩

variable {r : MarkRun} {s : State} {length : Nat}

/-- Which open runs a run of underscores closes. -/
theorem closesOpener_eq {o : Opener} (ho : o.Waits) (hr : r.mark = '_') (hcloses : r.closes = true) :
    closesOpener r r.count o = o.underscores.pairs r.underscores := by
  simp [closesOpener, Underscores.pairs, MarkRun.underscores, Opener.underscores, ho.mark, ho.opens,
    hr, hcloses]

theorem findOpener_eq_none_iff : ∀ {openers inner : List Opener},
    findOpener r length openers.length inner openers = none ↔
      ∀ o ∈ openers, closesOpener r length o = false
  | [], inner => by simp [findOpener]
  | o :: rest, inner => by
    rw [List.length_cons, findOpener]
    split
    · rename_i h
      simp [h]
    · rename_i h
      rw [findOpener_eq_none_iff]
      simp [h]

/-- The open run that is found is one of them, and so are those around it. -/
theorem of_findOpener : ∀ {n : Nat} {openers inner inner' outer : List Opener} {o : Opener},
    findOpener r length n inner openers = some (inner', o, outer) →
      o ∈ openers ∧ ∀ o' ∈ outer, o' ∈ openers
  | 0, _, _, _, _, _, h => by cases h
  | n + 1, [], _, _, _, _, h => by cases h
  | n + 1, first :: rest, inner, inner', outer, o, h => by
    rw [findOpener] at h
    split at h
    · cases h
      exact ⟨List.mem_cons_self .., fun _ => List.mem_cons_of_mem _⟩
    · obtain ⟨ho, houter⟩ := of_findOpener h
      exact ⟨List.mem_cons_of_mem _ ho, fun o' ho' => List.mem_cons_of_mem _ (houter o' ho')⟩

/-! ## 3. One run -/

/-- A run that no open one pairs with closes nothing. -/
theorem close_of_unpaired (hr : r.mark = '_') (hcloses : r.closes = true)
    (hs : s.Waits) (h : ∀ o ∈ s.openers, o.underscores.pairs r.underscores = false) (fuel : Nat) :
    close r.count fuel r s = (r, s) := by
  have hnone : findOpener r r.count s.openers.length [] s.openers = none :=
    findOpener_eq_none_iff.2 fun o ho =>
      (closesOpener_eq (hs o ho) hr hcloses).trans (h o ho)
  cases fuel with
  | zero => rfl
  | succ fuel => simp [close, hr, hnone]

/-- There is emphasis, and the open runs still wait. -/
structure State.Ready (s : State) : Prop where
  waits : s.Waits
  stressed : s.Stressed

/-- A run that closes one that is open makes emphasis of what stands between the two. -/
theorem ready_of_close (inner : List Opener) {outer : List Opener} {o : Opener}
    (hs : s.Waits) (hcount : 0 < r.count) (ho : o ∈ s.openers)
    (houter : ∀ o' ∈ outer, o' ∈ s.openers) :
    let used := min r.count o.run.count
    let wrapped := wrap r.mark used (o.run.start + o.run.count) r.start
      (giveUp s.pieces inner).reverse
    let closedTildes := min s.closedTildes outer.length
    State.Ready <|
      if used < o.run.count then
        { s with
          pieces := wrapped
          openers := { o with run := { o.run with count := o.run.count - used } } :: outer
          closedTildes }
      else { s with pieces := wrapped ++ o.before, openers := outer, closedTildes } := by
  intro used wrapped closedTildes
  have hused : 0 < used := Nat.lt_min.2 ⟨hcount, (hs o ho).count⟩
  obtain ⟨piece, hwrapped, hpiece⟩ : ∃ piece, wrapped = [piece] ∧ isStressed piece = true :=
    wrap_spec _ _ _ _ _ (.inl hused)
  rw [hwrapped]
  split
  · rename_i hlt
    refine ⟨?_, .of_mem (List.mem_singleton_self piece) hpiece⟩
    have hleft : 0 < o.run.count - used := Nat.sub_pos_of_lt hlt
    exact List.forall_mem_cons.2
      ⟨⟨(hs o ho).mark, (hs o ho).opens, hleft⟩, fun o' h => hs o' (houter o' h)⟩
  · exact ⟨fun o' h => hs o' (houter o' h), .of_mem (List.mem_cons_self ..) hpiece⟩

/-- What a run is after it has closed others, and the state there is then. -/
structure Closed (r : MarkRun) (result : MarkRun × State) : Prop where
  mark : result.1.mark = r.mark
  opens : result.1.opens = r.opens
  ready : result.2.Ready

/-- **Closing a run** makes emphasis, or there is no open run that it can close. -/
theorem close_spec : ∀ (fuel : Nat) {r : MarkRun} {s : State}, s.Waits →
    r.mark = '_' → 0 < r.count →
      (close length fuel r s = (r, s) ∧
        (0 < fuel → findOpener r length s.openers.length [] s.openers = none)) ∨
      Closed r (close length fuel r s)
  | 0, _, _, _, _, _ => .inl ⟨rfl, fun h => absurd h (Nat.lt_irrefl 0)⟩
  | fuel + 1, r, s, hs, hr, hcount => by
    have hmark : r.mark ≠ '~' := by rw [hr]; decide
    simp only [close, hmark, if_false]
    split
    · rename_i hnone
      exact .inl ⟨rfl, fun _ => hnone⟩
    · rename_i inner o outer hfound
      obtain ⟨ho, houter⟩ := of_findOpener hfound
      have hready := ready_of_close inner hs hcount ho houter
      dsimp only at hready
      generalize (if min r.count o.run.count < o.run.count then _ else _ : State) = s' at hready ⊢
      refine .inr ?_
      split
      · exact ⟨rfl, rfl, hready⟩
      · rename_i hleft
        rcases close_spec fuel (r := { r with
          count := r.count - min r.count o.run.count
          start := r.start + min r.count o.run.count }) hready.waits hr (Nat.pos_of_ne_zero hleft)
          with ⟨h, -⟩ | h
        · rw [h]
          exact ⟨rfl, rfl, hready⟩
        · exact ⟨h.mark, h.opens, h.ready⟩

/-- A run that no open one pairs with opens emphasis or is plain text. -/
theorem takeRun_of_unpaired (hs : s.Waits) (hr : r.mark = '_')
    (hcount : 0 < r.count) (h : ∀ o ∈ s.openers, o.underscores.pairs r.underscores = false) :
    takeRun r s =
      if r.opens then { s with pieces := [], openers := ⟨r, r.count, s.pieces⟩ :: s.openers }
      else { s with pieces := r.asText :: s.pieces } := by
  have hclose : (if r.closes then close r.count r.count r s else (r, s)) = (r, s) := by
    split
    · rename_i hcloses
      exact close_of_unpaired hr hcloses hs h _
    · rfl
  simp [takeRun, hclose, Nat.ne_of_gt hcount]

/-- In both cases its marks are plain text for the time being. -/
theorem given_takeRun (hs : s.Waits) (hr : r.mark = '_') (hcount : 0 < r.count)
    (h : ∀ o ∈ s.openers, o.underscores.pairs r.underscores = false) :
    (takeRun r s).given = r.asText :: s.given := by
  rw [takeRun_of_unpaired hs hr hcount h]
  split
  · rw [State.given, giveUp, List.nil_append, giveUp_cons, State.given]
  · rw [State.given, giveUp_cons, State.given]

/-- What is left of a run that has closed others is plain text at worst. -/
theorem Closed.ready_takeRun (hr : r.mark = '_')
    (h : Closed r (if r.closes then close r.count r.count r s else (r, s))) :
    (takeRun r s).Ready := by
  unfold takeRun
  generalize (if r.closes then close r.count r.count r s else (r, s)) = result at h ⊢
  obtain ⟨left, s'⟩ := result
  obtain ⟨hmark, hopens, hready⟩ := h
  dsimp only at hmark hopens hready ⊢
  split
  · exact hready
  · rename_i hleft
    split
    · rename_i hr'
      refine ⟨List.forall_mem_cons.2 ⟨⟨hmark.trans hr, hopens.trans hr', Nat.pos_of_ne_zero hleft⟩,
        hready.waits⟩, ?_⟩
      -- the run is given up at worst
      obtain ⟨piece, hpiece, hstressed⟩ := hready.stressed
      refine ⟨piece, ?_, hstressed⟩
      rw [State.given, giveUp, List.nil_append, giveUp_cons]
      exact List.mem_cons_of_mem _ hpiece
    · exact ⟨hready.waits, hready.stressed.add _⟩

/-- **Once there is emphasis**, no run takes it away. -/
theorem State.Ready.takeRun (hs : s.Ready) (hr : r.mark = '_') (hcount : 0 < r.count) :
    (takeRun r s).Ready := by
  refine Closed.ready_takeRun hr ?_
  split
  · rcases close_spec r.count hs.waits hr hcount with ⟨h, -⟩ | h
    · rw [h]
      exact ⟨rfl, rfl, hs⟩
    · exact h
  · exact ⟨rfl, rfl, hs⟩

/-- **A run that an open one pairs with** makes emphasis. -/
theorem ready_takeRun (hs : s.Waits) (hr : r.mark = '_') (hcount : 0 < r.count)
    {o : Opener} (ho : o ∈ s.openers) (h : o.underscores.pairs r.underscores = true) :
    (takeRun r s).Ready := by
  have hcloses : r.closes = true := by
    simp only [Underscores.pairs, MarkRun.underscores, Bool.and_eq_true] at h
    exact h.1.2
  refine Closed.ready_takeRun hr ?_
  rw [if_pos hcloses]
  refine (close_spec r.count hs hr hcount).resolve_left fun ⟨_, hnone⟩ => ?_
  have hnot := findOpener_eq_none_iff.1 (hnone hcount) o ho
  rw [closesOpener_eq (hs o ho) hr hcloses, h] at hnot
  cases hnot

end Emphasis

/-! ## 4. Text and runs in a row -/

/-- The items of a text in which nothing but runs of underscores may be marks, from an offset on: the
characters of the text, and those of the runs that may do something. -/
inductive Spells : Nat → List Char → List Item → List Underscores → Prop
  | nil (offset : Nat) : Spells offset [] [] []
  | text {offset : Nat} {text rest : List Char} {items : List Item} {runs : List Underscores}
      (hne : text ≠ []) (hrest : Spells (offset + Text.byteLength text) rest items runs) :
      Spells offset (text ++ rest)
        (.done (.text ⟨offset, offset + Text.byteLength text⟩ (String.ofList text)) :: items) runs
  | run {offset : Nat} {rest : List Char} {items : List Item} {runs : List Underscores}
      {u : Underscores} (hcount : 0 < u.count) (hrest : Spells (offset + u.count) rest items runs) :
      Spells offset (List.replicate u.count '_' ++ rest)
        (.run (u.run offset) :: items) (u :: runs)

namespace Emphasis

/-- An item as plain text. -/
def asPlain : Item → Inline
  | .done piece => piece
  | .run r => r.asText

/-- Whether no open run pairs with one that is to come, and none of these with a later one. -/
structure Unpaired (s : State) (runs : List Underscores) : Prop where
  opened : ∀ o ∈ s.openers, ∀ u ∈ runs, o.underscores.pairs u = false
  later : runs.Pairwise fun a b => a.pairs b = false

variable {offset : Nat} {text : List Char} {items : List Item} {runs : List Underscores}
  {r : MarkRun} {s : State}

/-- Taking a run that no open one pairs with leaves open runs that wait, and those that are open then
pair with nothing that is to come if neither those before nor the run did. -/
theorem unpaired_takeRun (hs : s.Waits) (hr : r.mark = '_') (hcount : 0 < r.count)
    (h : ∀ o ∈ s.openers, o.underscores.pairs r.underscores = false) :
    (takeRun r s).Waits ∧
      (Unpaired (takeRun r s) runs ↔ Unpaired s (r.underscores :: runs)) := by
  rw [takeRun_of_unpaired hs hr hcount h]
  split
  · rename_i hopens
    refine ⟨List.forall_mem_cons.2 ⟨⟨hr, hopens, hcount⟩, hs⟩, ?_⟩
    constructor
    · rintro ⟨hopened, hlater⟩
      obtain ⟨hnew, hopened⟩ := List.forall_mem_cons.1 hopened
      exact ⟨fun o ho => List.forall_mem_cons.2 ⟨h o ho, hopened o ho⟩,
        List.pairwise_cons.2 ⟨hnew, hlater⟩⟩
    · rintro ⟨hopened, hlater⟩
      obtain ⟨hnew, hlater⟩ := List.pairwise_cons.1 hlater
      exact ⟨List.forall_mem_cons.2 ⟨hnew, fun o ho => (List.forall_mem_cons.1 (hopened o ho)).2⟩,
        hlater⟩
  · rename_i hopens
    have hnew : ∀ u, r.underscores.pairs u = false := fun u => by
      simp [Underscores.pairs, MarkRun.underscores, hopens]
    refine ⟨hs, ?_⟩
    constructor
    · rintro ⟨hopened, hlater⟩
      exact ⟨fun o ho => List.forall_mem_cons.2 ⟨h o ho, hopened o ho⟩,
        List.pairwise_cons.2 ⟨fun u _ => hnew u, hlater⟩⟩
    · rintro ⟨hopened, hlater⟩
      exact ⟨fun o ho => (List.forall_mem_cons.1 (hopened o ho)).2, (List.pairwise_cons.1 hlater).2⟩

/-- **Runs that do not pair** are plain text. -/
theorem given_takeAll (h : Spells offset text items runs) : ∀ {s : State}, s.Waits →
    Unpaired s runs →
      (takeAll items s).given = (items.map asPlain).reverse ++ s.given := by
  induction h with
  | nil => exact fun _ _ => rfl
  | @text offset text rest items runs hne hrest ih =>
    intro s hs hunpaired
    have ih := @ih { s with
      pieces := .text ⟨offset, offset + Text.byteLength text⟩ (String.ofList text) :: s.pieces }
      hs ⟨hunpaired.opened, hunpaired.later⟩
    rw [takeAll, ih, State.given, giveUp_cons, ← State.given, List.map_cons, List.reverse_cons,
      List.append_assoc]
    rfl
  | @run offset rest items runs u hcount hrest ih =>
    intro s hs hunpaired
    have hnone : ∀ o ∈ s.openers, o.underscores.pairs u = false := fun o ho =>
      hunpaired.opened o ho u (List.mem_cons_self ..)
    obtain ⟨hs', hiff⟩ := @unpaired_takeRun runs (u.run offset) s hs rfl hcount hnone
    rw [takeAll, ih hs' (hiff.2 hunpaired), @given_takeRun (u.run offset) s hs rfl hcount hnone,
      List.map_cons, List.reverse_cons, List.append_assoc]
    rfl

/-- Emphasis stays where it is. -/
theorem State.Ready.takeAll (h : Spells offset text items runs) : ∀ {s : State}, s.Ready →
    (takeAll items s).Ready := by
  induction h with
  | nil => exact id
  | text hne hrest ih => exact fun hs => ih ⟨hs.waits, hs.stressed.add _⟩
  | run hcount hrest ih => exact fun hs => ih (hs.takeRun rfl hcount)

/-- **A run that pairs with an earlier one** makes emphasis. -/
theorem ready_takeAll (h : Spells offset text items runs) : ∀ {s : State}, s.Waits →
    ¬ Unpaired s runs → (takeAll items s).Ready := by
  induction h with
  | nil =>
    intro s hs hpaired
    exact absurd ⟨fun _ _ _ h => absurd h List.not_mem_nil, .nil⟩ hpaired
  | text hne hrest ih =>
    exact fun hs hpaired => ih hs fun h => hpaired ⟨h.opened, h.later⟩
  | @run offset rest items runs u hcount hrest ih =>
    intro s hs hpaired
    by_cases hnone : ∀ o ∈ s.openers, o.underscores.pairs u = false
    · obtain ⟨hs', hiff⟩ := @unpaired_takeRun runs (u.run offset) s hs rfl hcount hnone
      exact ih hs' fun h => hpaired (hiff.1 h)
    · simp only [not_forall, Bool.not_eq_false] at hnone
      obtain ⟨o, ho, hpairs⟩ := hnone
      exact State.Ready.takeAll hrest (ready_takeRun hs rfl hcount ho hpairs)

/-- Before anything has been taken no run is open. -/
theorem unpaired_empty_iff :
    Unpaired {} runs ↔ runs.Pairwise fun a b => a.pairs b = false :=
  ⟨Unpaired.later, fun h => ⟨fun _ ho => absurd ho List.not_mem_nil, h⟩⟩

theorem plainEnd_eq (h : Spells offset text items runs) : plainEnd items = items := by
  induction h with
  | nil => rfl
  | text hne hrest ih => simp [plainEnd, ih]
  | run hcount hrest ih => simp [plainEnd, ih]

theorem resolve_eq (h : Spells offset text items runs) :
    resolve items = (takeAll items {}).given.reverse := by
  unfold resolve
  rw [plainEnd_eq h, ite_self]
  rfl

/-- **Text without runs that pair** is plain. -/
theorem resolve_of_unpaired (h : Spells offset text items runs)
    (hruns : runs.Pairwise fun a b => a.pairs b = false) : resolve items = items.map asPlain := by
  have hgiven := given_takeAll h State.waits_empty (unpaired_empty_iff.2 hruns)
  rw [resolve_eq h, hgiven]
  simp [State.given, giveUp]

/-- **Text with runs that pair** has emphasis in it. -/
theorem resolve_of_paired (h : Spells offset text items runs)
    (hruns : ¬ runs.Pairwise fun a b => a.pairs b = false) :
    ∃ piece ∈ resolve items, isStressed piece = true := by
  obtain ⟨piece, hpiece, hstressed⟩ :=
    (ready_takeAll h State.waits_empty fun h => hruns (unpaired_empty_iff.1 h)).stressed
  exact ⟨piece, by rw [resolve_eq h]; exact List.mem_reverse.2 hpiece, hstressed⟩

end Emphasis

end WikiPage.Markdown
