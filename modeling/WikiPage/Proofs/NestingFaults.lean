import WikiPage.Proofs.ReadText
/-!
# When a page is nested too deeply

A sequence of events has one fault, a construct that starts while as many as the limit allows are
open; whether the events are balanced does not matter.

* `Beyond` says where this happens: by counting alone, with ends that have nothing to end not counted.
* `step_cases` is everything that one event does to the number of open constructs, and `feed_cases`
  what a run of them does; `feed_eq_error` is the first fault of a run.
* `feed_withoutSurplus`: ends that come while nothing is open may be left out.
* `treeOfEvents_faults` puts these together.
-/

namespace WikiPage.Markdown

/-! ## 1. Counting -/

/-- How many constructs are open after events in a row. -/
def openCount (opened : Nat) (events : List Located) : Nat :=
  events.foldl (fun opened e => openAfter opened e.1) opened

/-- Whether the event at a place starts a construct while as many as the limit allows are open. -/
def BeyondFrom (limit opened : Nat) (events : List Located) (i : Fin events.length) : Prop :=
  events[i].1.opens = true ∧ openCount opened (events.take i) = limit

/-- Whether the event at a place of a page starts a construct beyond the limit. -/
def Beyond (limit : Nat) (events : List Located) (i : Fin events.length) : Prop :=
  BeyondFrom limit 0 events i

instance (limit opened : Nat) (events : List Located) (i : Fin events.length) :
    Decidable (BeyondFrom limit opened events i) :=
  inferInstanceAs (Decidable (_ ∧ _))

instance (limit : Nat) (events : List Located) (i : Fin events.length) :
    Decidable (Beyond limit events i) :=
  inferInstanceAs (Decidable (BeyondFrom limit 0 events i))

section Places

variable {limit opened : Nat} {e : Located} {rest : List Located}

theorem beyondFrom_succ (i : Fin rest.length) :
    BeyondFrom limit opened (e :: rest) i.succ ↔ BeyondFrom limit (openAfter opened e.1) rest i :=
  Iff.rfl

/-- An event of a sequence is the first one or one of the others, which come after it. -/
theorem exists_beyondFrom_cons : (∃ i, BeyondFrom limit opened (e :: rest) i) ↔
    e.1.opens = true ∧ opened = limit ∨ ∃ i, BeyondFrom limit (openAfter opened e.1) rest i :=
  Fin.exists_fin_succ (P := BeyondFrom limit opened (e :: rest))

end Places

/-- Whether an event ends a construct. -/
def Event.ends : Event → Bool
  | .finish _ => true
  | _ => false

/-- Events without the ends among them that come while nothing is open, as far as `drop` picks
them. -/
def withoutSurplus (drop : Located → Bool) : (opened : Nat) → List Located → List Located
  | _, [] => []
  | opened, e :: rest =>
    if opened = 0 ∧ e.1.ends = true ∧ drop e = true then withoutSurplus drop opened rest
    else e :: withoutSurplus drop (openAfter opened e.1) rest

namespace Assembly

variable {limit : Nat} {a : Assembly}

/-! ## 2. One event -/

theorem opened_text (a : Assembly) (value : String) (span : Span) :
    (a.text value span).opened.length = a.opened.length := by
  unfold Assembly.text
  split
  · rfl
  · exact open_add a _

theorem opened_finish (a : Assembly) (tag : Tag) :
    (a.finish tag).opened.length = openAfter a.opened.length (.finish tag) := by
  simp only [Assembly.finish, openAfter]
  cases tag.kind? with
  | none => rfl
  | some kind => exact open_closeInner a

/-- **What one event does**: it starts a construct where there is no room for one, or it is taken in
and counted. -/
theorem step_cases (limit : Nat) (a : Assembly) (e : Located) :
    (e.1.opens = true ∧ limit ≤ a.opened.length ∧
        a.step limit e = .error (.tooDeep limit e.2.start)) ∨
      (e.1.opens = true → a.opened.length < limit) ∧
        ∃ b, a.step limit e = .ok b ∧ b.opened.length = openAfter a.opened.length e.1 := by
  obtain ⟨event, span⟩ := e
  cases event with
  | start tag =>
    simp only [step, start, Event.opens, openAfter]
    cases tag.kind? with
    | none => exact .inr ⟨nofun, a, rfl, rfl⟩
    | some kind =>
      by_cases hroom : a.opened.length < limit
      · exact .inr ⟨fun _ => hroom, _, if_pos hroom, rfl⟩
      · exact .inl ⟨rfl, Nat.le_of_not_lt hroom, if_neg hroom⟩
  | finish tag => exact .inr ⟨nofun, _, rfl, opened_finish a tag⟩
  | text value => exact .inr ⟨nofun, _, rfl, opened_text a value span⟩
  | _ => exact .inr ⟨nofun, _, rfl, open_add a _⟩

/-- An event leaves no more open than the limit allows. -/
theorem openAfter_le {event : Event} {opened : Nat} (h : opened ≤ limit)
    (hroom : event.opens = true → opened < limit) : openAfter opened event ≤ limit := by
  cases event with
  | start tag =>
    cases hcounts : tag.kind?.isSome with
    | false => simpa [openAfter, hcounts] using h
    | true => simpa [openAfter, hcounts, Nat.succ_le_iff] using hroom hcounts
  | finish tag =>
    simp only [openAfter]
    split <;> omega
  | _ => exact h

/-- An end that comes while nothing is open is passed over. -/
theorem step_of_surplus {e : Located} (hopened : a.opened.length = 0) (he : e.1.ends = true) :
    a.step limit e = .ok a := by
  obtain ⟨top, opened⟩ := a
  obtain rfl : opened = [] := List.length_eq_zero_iff.1 hopened
  obtain ⟨event, span⟩ := e
  cases event with
  | finish tag =>
    simp only [step, finish]
    cases tag.kind? <;> rfl
  | _ => cases he

/-! ## 3. A run of events -/

theorem feed_cons_of_ok {b : Assembly} {e : Located} (hb : a.step limit e = .ok b)
    (events : List Located) : a.feed limit (e :: events) = b.feed limit events := by
  rw [feed, List.foldlM_cons, hb]
  rfl

theorem feed_cons_of_error {fault : PassError} {e : Located} (h : a.step limit e = .error fault)
    (events : List Located) : a.feed limit (e :: events) = .error fault := by
  rw [feed, List.foldlM_cons, h]
  rfl

/-- **A run fails just when one of its events is beyond the limit**, and with one of these. -/
theorem feed_cases : ∀ (events : List Located) {a : Assembly}, a.opened.length ≤ limit →
    (∃ i, BeyondFrom limit a.opened.length events i ∧
        a.feed limit events = .error (.tooDeep limit events[i].2.start)) ∨
      (¬ ∃ i, BeyondFrom limit a.opened.length events i) ∧ ∃ b, a.feed limit events = .ok b
  | [], a, _ => .inr ⟨fun ⟨i, _⟩ => i.elim0, a, rfl⟩
  | e :: rest, a, h => by
    obtain ⟨hopens, hfull, hstep⟩ | ⟨hroom, b, hstep, hopened⟩ := step_cases limit a e
    · exact .inl ⟨0, ⟨hopens, Nat.le_antisymm h hfull⟩, feed_cons_of_error hstep rest⟩
    · have hfirst : ¬ (e.1.opens = true ∧ a.opened.length = limit) := fun hbeyond =>
        absurd hbeyond.2 (Nat.ne_of_lt (hroom hbeyond.1))
      rw [exists_beyondFrom_cons, or_iff_right hfirst, feed_cons_of_ok hstep, ← hopened]
      obtain ⟨i, hbeyond, hfeed⟩ | hwithin := feed_cases rest (hopened ▸ openAfter_le h hroom)
      · refine .inl ⟨i.succ, ?_, hfeed⟩
        rwa [beyondFrom_succ, ← hopened]
      · exact .inr hwithin

/-- **The fault of a run** is that of the first event beyond the limit. -/
theorem feed_eq_error : ∀ {events : List Located} {a : Assembly}, a.opened.length ≤ limit →
    ∀ i, BeyondFrom limit a.opened.length events i →
      (∀ j < i, ¬ BeyondFrom limit a.opened.length events j) →
        a.feed limit events = .error (.tooDeep limit events[i].2.start)
  | [], _, _, i, _, _ => i.elim0
  | e :: rest, a, h, i, hi, hfirst => by
    cases i using Fin.cases with
    | zero =>
      obtain ⟨-, -, hstep⟩ | ⟨hroom, -⟩ := step_cases limit a e
      · exact feed_cons_of_error hstep rest
      · exact absurd hi.2 (Nat.ne_of_lt (hroom hi.1))
    | succ i =>
      obtain ⟨hopens, hfull, -⟩ | ⟨hroom, b, hstep, hopened⟩ := step_cases limit a e
      · exact absurd ⟨hopens, Nat.le_antisymm h hfull⟩ (hfirst 0 i.succ_pos)
      · rw [beyondFrom_succ, ← hopened] at hi
        rw [feed_cons_of_ok hstep]
        refine feed_eq_error (hopened ▸ openAfter_le h hroom) i hi fun j hj hbeyond => ?_
        refine hfirst j.succ (Fin.succ_lt_succ_iff.2 hj) ?_
        rwa [beyondFrom_succ, ← hopened]

/-- **Surplus ends may be left out**: what is built does not see them. -/
theorem feed_withoutSurplus (limit : Nat) (drop : Located → Bool) :
    ∀ (events : List Located) (a : Assembly),
      a.feed limit (withoutSurplus drop a.opened.length events) = a.feed limit events
  | [], _ => rfl
  | e :: rest, a => by
    rw [withoutSurplus]
    split
    · rename_i hsurplus
      have hstep : a.step limit e = .ok a := step_of_surplus hsurplus.1 hsurplus.2.1
      rw [feed_cons_of_ok hstep]
      exact feed_withoutSurplus limit drop rest a
    · obtain ⟨-, -, hstep⟩ | ⟨-, b, hstep, hopened⟩ := step_cases limit a e
      · rw [feed_cons_of_error hstep, feed_cons_of_error hstep]
      · rw [feed_cons_of_ok hstep, feed_cons_of_ok hstep, ← hopened]
        exact feed_withoutSurplus limit drop rest b

end Assembly

/-! ## 4. Trees -/

/-- **The one fault of events.**  Raw markup and metadata are not counted.  Whatever the events are,
reading them fails just when one of them starts a construct while as many as the limit allows are
open, and then with the limit and with where the first one of these starts.  Otherwise they give a
document with all bytes of the source, and they give the same one without the ends that come while
nothing is open. -/
theorem treeOfEvents_faults (size limit : Nat) (events : List Located) :
    (∀ tag : Tag, tag.kind? = none ↔ tag = .rawBlock ∨ tag = .metadata) ∧
      ((∃ fault, treeOfEvents size limit events = .error fault) ↔ ∃ i, Beyond limit events i) ∧
      (∀ i, Beyond limit events i → (∀ j < i, ¬ Beyond limit events j) →
        treeOfEvents size limit events = .error (.tooDeep limit events[i].2.start)) ∧
      ((¬ ∃ i, Beyond limit events i) → ∃ tree, treeOfEvents size limit events = .ok tree ∧
        tree.kind = .root ∧ tree.span = some ⟨0, size⟩ ∧
        ∀ drop, treeOfEvents size limit (withoutSurplus drop 0 events) = .ok tree) := by
  have hempty : (Assembly.empty size).opened.length ≤ limit := Nat.zero_le _
  have hcases := Assembly.feed_cases events hempty
  refine ⟨fun tag => by cases tag <;> simp [Tag.kind?], ?_, fun i hi hfirst => ?_, fun hwithin => ?_⟩
  · obtain ⟨i, hbeyond, hfeed⟩ | ⟨hwithin, a, hfeed⟩ := hcases
    · exact iff_of_true ⟨_, by rw [treeOfEvents, hfeed]; rfl⟩ ⟨i, hbeyond⟩
    · refine iff_of_false (not_exists.2 fun fault hfault => ?_) hwithin
      rw [treeOfEvents, hfeed] at hfault
      cases hfault
  · rw [treeOfEvents, Assembly.feed_eq_error hempty i hi hfirst]
    rfl
  · obtain ⟨-, a, hfeed⟩ := hcases.resolve_left fun h => hwithin (h.imp fun _ => And.left)
    have htree : treeOfEvents size limit events = .ok a.close := by
      rw [treeOfEvents, hfeed]
      rfl
    obtain ⟨hkind, hspan⟩ := shell_treeOfEvents htree
    refine ⟨a.close, htree, hkind, hspan, fun drop => ?_⟩
    rw [← htree, treeOfEvents, treeOfEvents]
    exact congrArg _ (Assembly.feed_withoutSurplus limit drop events (Assembly.empty size))

/-- Events with an end too many before and behind a paragraph, emphasis in the paragraph, and raw
markup in that. -/
def unevenEvents : List Located :=
  [(.finish .item, ⟨0, 1⟩), (.start .paragraph, ⟨1, 9⟩), (.start .emphasis, ⟨2, 8⟩),
    (.start .rawBlock, ⟨3, 7⟩), (.html "<b>", ⟨3, 6⟩), (.finish .rawBlock, ⟨3, 7⟩),
    (.finish .emphasis, ⟨2, 8⟩), (.finish .paragraph, ⟨1, 9⟩), (.finish .rawBlock, ⟨9, 9⟩),
    (.finish .item, ⟨9, 9⟩)]

/-- One construct does not make room for the emphasis, two do, and three of the ends are surplus. -/
theorem treeOfEvents_unevenEvents :
    Beyond 1 unevenEvents ⟨2, by decide⟩ ∧
      (∀ j < ⟨2, by decide⟩, ¬ Beyond 1 unevenEvents j) ∧
      treeOfEvents 9 1 unevenEvents = .error (.tooDeep 1 2) ∧
      (¬ ∃ i, Beyond 2 unevenEvents i) ∧
      (withoutSurplus (fun _ => true) 0 unevenEvents).length = 7 ∧
      ∃ tree, treeOfEvents 9 2 unevenEvents = .ok tree ∧
        treeOfEvents 9 2 (withoutSurplus (fun _ => true) 0 unevenEvents) = .ok tree := by
  have hbeyond : Beyond 1 unevenEvents ⟨2, by decide⟩ := by decide
  have hfirst : ∀ j < ⟨2, by decide⟩, ¬ Beyond 1 unevenEvents j := by decide
  have hwithin : ¬ ∃ i, Beyond 2 unevenEvents i := by decide
  obtain ⟨tree, htree, -, -, hdrop⟩ := (treeOfEvents_faults 9 2 unevenEvents).2.2.2 hwithin
  exact ⟨hbeyond, hfirst, (treeOfEvents_faults 9 1 unevenEvents).2.2.1 _ hbeyond hfirst, hwithin,
    by decide, tree, htree, hdrop _⟩

end WikiPage.Markdown
