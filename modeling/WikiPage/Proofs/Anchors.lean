import WikiPage.Outline
/-!
# When anchors are unique

Going through a page for its outline is going through the list of its headings (`headings_walk`).
An anchor that is made is numbered by how many headings before asked for the same (`id_visitAll`).

* `numbered_inj`: numbered anchors differ if they were asked for differently or have other numbers.
* `madeUnique_outlined_iff`: anchors of the author's stay, and the anchors that are made are unique,
  but for three kinds of clash: with the anchor of the title, with an anchor that a later heading
  was given, and of a numbered anchor with what another heading asks for.
* `numbered_anchor_twice` is a page with a clash of the last kind.
-/

namespace WikiPage

/-- A heading: its level, the anchor that it has, and its trimmed text. -/
structure Heading where
  level : Nat
  id : Option String
  text : String
  deriving DecidableEq, Repr

namespace Node

mutual
/-- The headings of a tree, in document order. -/
def headings : Node → List Heading
  | ⟨.heading level id _, children, _⟩ =>
    ⟨level, id, Text.trimmed (plainTextAll children)⟩ :: headingsAll children
  | ⟨_, children, _⟩ => headingsAll children
/-- The headings of a list of trees. -/
def headingsAll : List Node → List Heading
  | [] => []
  | n :: rest => headings n ++ headingsAll rest
end

end Node

namespace Outline

/-! ## 1. The list of headings -/

/-- Takes note of headings in a row. -/
def visitAll (policy : HeadingPolicy) (p : Progress) : List Heading → List Heading × Progress
  | [] => ([], p)
  | h :: rest =>
    let (id, p) := visit policy p h.level h.id h.text
    let (rest, p) := visitAll policy p rest
    ({ h with id } :: rest, p)

theorem visitAll_append (policy : HeadingPolicy) : ∀ (a b : List Heading) (p : Progress),
    visitAll policy p (a ++ b) =
      ((visitAll policy p a).1 ++ (visitAll policy (visitAll policy p a).2 b).1,
        (visitAll policy (visitAll policy p a).2 b).2)
  | [], _, _ => rfl
  | h :: a, b, p => by
    simp only [List.cons_append, visitAll, visitAll_append policy a b]

mutual
/-- Anchors are no part of the text. -/
theorem plainText_walk (policy : HeadingPolicy) : ∀ (n : Node) (p : Progress),
    (walk policy p n).1.plainText = n.plainText
  | ⟨kind, children, span⟩, p => by
    have h := plainTextAll_walkAll policy children
    cases kind with
    | heading level id classes =>
      simp only [walk, Node.plainText, h]
      rfl
    | _ => simp only [walk, Node.plainText, h]
theorem plainTextAll_walkAll (policy : HeadingPolicy) : ∀ (ns : List Node) (p : Progress),
    Node.plainTextAll (walkAll policy p ns).1 = Node.plainTextAll ns
  | [], _ => rfl
  | n :: rest, p => by
    simp only [walkAll, Node.plainTextAll, plainText_walk policy n, plainTextAll_walkAll policy rest]
end

mutual
/-- **Going through a tree is going through its headings.** -/
theorem headings_walk (policy : HeadingPolicy) : ∀ (n : Node) (p : Progress),
    ((walk policy p n).1.headings, (walk policy p n).2) = visitAll policy p n.headings
  | ⟨kind, children, span⟩, p => by
    have h := headingsAll_walkAll policy children
    cases kind with
    | heading level id classes =>
      simp only [walk, Node.headings, visitAll, ← h, plainTextAll_walkAll]
    | _ =>
      simp only [walk, Node.headings]
      exact h p
theorem headingsAll_walkAll (policy : HeadingPolicy) : ∀ (ns : List Node) (p : Progress),
    (Node.headingsAll (walkAll policy p ns).1, (walkAll policy p ns).2) =
      visitAll policy p (Node.headingsAll ns)
  | [], _ => rfl
  | n :: rest, p => by
    simp only [walkAll, Node.headingsAll, visitAll_append, ← headings_walk policy n,
      ← headingsAll_walkAll policy rest]
end

/-! ## 2. Numbers of anchors -/

theorem lookup_filter_ne {id other : String} (h : other ≠ id) : ∀ uses : Uses,
    (uses.filter (·.1 != id)).lookup other = uses.lookup other
  | [] => rfl
  | (key, count) :: uses => by
    have ih := lookup_filter_ne h uses
    by_cases hkey : key = id
    · subst hkey
      simp [List.lookup_cons, ih, beq_eq_false_iff_ne.2 h]
    · simp [List.lookup_cons, ih, hkey]

/-- One more use counts for its anchor, and for no other. -/
theorem usesOf_use (uses : Uses) (id other : String) :
    usesOf (use uses id) other = usesOf uses other + if other = id then 1 else 0 := by
  by_cases h : other = id
  · subst h
    simp [usesOf, use]
  · simp [usesOf, use, List.lookup_cons, lookup_filter_ne h, beq_eq_false_iff_ne.2 h, h]

/-- What follows the last dash is found in one way only. -/
theorem append_dash_inj {x y a b : List Char} (ha : '-' ∉ a) (hb : '-' ∉ b)
    (h : x ++ '-' :: a = y ++ '-' :: b) : x = y ∧ a = b := by
  rcases List.append_eq_append_iff.1 h with ⟨_ | ⟨c, cs⟩, rfl, hrest⟩ | ⟨_ | ⟨c, cs⟩, rfl, hrest⟩
  · exact ⟨(List.append_nil x).symm, (List.cons.inj hrest).2⟩
  · exact absurd ((List.cons.inj hrest).2 ▸ by simp) ha
  · exact ⟨List.append_nil y, (List.cons.inj hrest).2.symm⟩
  · exact absurd ((List.cons.inj hrest).2 ▸ by simp) hb

theorem dash_notMem_toDigits (n : Nat) : '-' ∉ Nat.toDigits 10 n := fun h =>
  absurd (Nat.isDigit_of_mem_toDigits (by decide) (by decide) h) (by decide)

theorem toList_numbered (base : String) (n : Nat) :
    (numbered base (n + 1)).toList = base.toList ++ '-' :: Nat.toDigits 10 (n + 1) := by
  simp [numbered, String.toList_append, Nat.toList_repr]

/-- **Numbered anchors** differ if they were asked for differently or have other numbers. -/
theorem numbered_inj {base base' : String} {m n : Nat} (hm : 0 < m) (hn : 0 < n)
    (h : numbered base m = numbered base' n) : base = base' ∧ m = n := by
  obtain ⟨m, rfl⟩ := Nat.exists_eq_add_of_lt hm
  obtain ⟨n, rfl⟩ := Nat.exists_eq_add_of_lt hn
  have hlist := congrArg String.toList h
  rw [toList_numbered, toList_numbered] at hlist
  obtain ⟨hbase, hdigits⟩ :=
    append_dash_inj (dash_notMem_toDigits _) (dash_notMem_toDigits _) hlist
  refine ⟨String.toList_inj.1 hbase, ?_⟩
  rw [← @Nat.ofDigitChars_ten_toDigits (0 + m + 1), hdigits, Nat.ofDigitChars_ten_toDigits]

theorem numbered_ne {base : String} {n : Nat} (hn : 0 < n) : base ≠ numbered base n := fun h => by
  obtain ⟨n, rfl⟩ := Nat.exists_eq_add_of_lt hn
  have hlength := congrArg (List.length ∘ String.toList) h
  simp only [Function.comp, toList_numbered, List.length_append, List.length_cons] at hlength
  omega

/-! ## 3. What headings ask for -/

/-- The anchor that a heading asks for: the one it was given, or the slug of its text.  The title
asks for none. -/
def request (extract : Bool) (h : Heading) : Option String :=
  if extract && h.level == 1 then none else some (h.id.getD (baseId h.text))

/-- What headings in a row ask for. -/
def requests (extract : Bool) : List Heading → List (Option String)
  | [] => []
  | h :: rest => request extract h :: requests (extract && !(h.level == 1)) rest

/-- The anchor of a heading: a given one is kept, and one that is asked for gets the number of the
requests before it. -/
def anchor (earlier : List (Option String)) : (given asked : Option String) → Option String
  | some given, _ => some given
  | none, none => none
  | none, some base => some (numbered base (earlier.count (some base)))

/-- What was asked for is counted. -/
def Counts (p : Progress) (earlier : List (Option String)) : Prop :=
  ∀ id, usesOf p.uses id = earlier.count (some id)

variable {extract : Bool} {p : Progress} {earlier : List (Option String)}

theorem Counts.use (hp : Counts p earlier) (id : String) {q : Progress}
    (hq : q.uses = use p.uses id) : Counts q (earlier ++ [some id]) := fun other => by
  rw [hq, usesOf_use, hp other, List.count_append, List.count_singleton]
  by_cases h : other = id
  · simp [h]
  · simp [h, Ne.symm h]

theorem Counts.skip (hp : Counts p earlier) {q : Progress} (hq : q.uses = p.uses) :
    Counts q (earlier ++ [none]) := fun other => by
  rw [hq, hp other, List.count_append]
  simp

/-- **One heading**: its anchor is counted right, and so are the next ones. -/
theorem visit_spec (hp : Counts p earlier) (h : Heading) :
    (visit ⟨true, extract⟩ p h.level h.id h.text).1 =
        anchor earlier h.id (request (extract && p.title.isNone) h) ∧
      Counts (visit ⟨true, extract⟩ p h.level h.id h.text).2
        (earlier ++ [request (extract && p.title.isNone) h]) ∧
      (extract && (visit ⟨true, extract⟩ p h.level h.id h.text).2.title.isNone) =
        (extract && p.title.isNone && !(h.level == 1)) := by
  obtain ⟨level, id, text⟩ := h
  -- whether this heading is the title, which asks for nothing
  cases htitle : extract && p.title.isNone && level == 1 with
  | true =>
    obtain ⟨hextract, hlevel⟩ := Bool.and_eq_true_iff.1 htitle
    obtain ⟨he, ht⟩ := Bool.and_eq_true_iff.1 hextract
    have hvisit : visit ⟨true, extract⟩ p level id text = (id, { p with title := some text }) := by
      simp [visit, he, ht, hlevel]
    rw [hvisit, request, htitle]
    refine ⟨by cases id <;> rfl, hp.skip rfl, by simp [hlevel]⟩
  | false =>
    have hrequest : request (extract && p.title.isNone) ⟨level, id, text⟩ =
        some (id.getD (baseId text)) := by rw [request, htitle]; rfl
    have hkeep : ∀ a b : Bool, (a && b) = false → (a && !b) = a := by decide
    have hvisit : (extract && level == 1 && p.title.isNone) = false := by
      rw [Bool.and_right_comm, htitle]
    rw [hrequest, hkeep _ _ htitle]
    cases id with
    | some given =>
      simp only [visit, hvisit]
      exact ⟨rfl, hp.use given rfl, rfl⟩
    | none =>
      simp only [visit, hvisit]
      exact ⟨by simp [anchor, hp (baseId text)], hp.use (baseId text) rfl, rfl⟩

theorem id_visitAll : ∀ {hs : List Heading} {p : Progress} {earlier : List (Option String)} {i : Nat}
    {h : Heading}, Counts p earlier → hs[i]? = some h → ∃ e,
      (requests (extract && p.title.isNone) hs)[i]? = some (request e h) ∧
      ((visitAll ⟨true, extract⟩ p hs).1.map (·.id))[i]? =
        some (anchor (earlier ++ (requests (extract && p.title.isNone) hs).take i) h.id (request e h))
  | g :: rest, p, earlier, 0, h, hp, hh => by
    cases hh
    exact ⟨_, rfl, by simpa [visitAll] using (visit_spec hp g).1⟩
  | g :: rest, p, earlier, i + 1, h, hp, hh => by
    obtain ⟨-, hcounts, htitle⟩ := @visit_spec extract _ _ hp g
    obtain ⟨e, hrequest, hid⟩ := id_visitAll hcounts (show rest[i]? = some h from hh)
    rw [htitle] at hrequest hid
    exact ⟨e, hrequest, by simpa [visitAll, requests] using hid⟩

/-! ## 4. Unique anchors -/

section Unique

variable {given asked ids : List (Option String)}

/-- The anchor that is made for the heading at a place which asks for `base`. -/
def madeAt (asked : List (Option String)) (i : Nat) (base : String) : String :=
  numbered base ((asked.take i).count (some base))

/-- No anchor that was made is the anchor of another heading. -/
def MadeUnique (given ids : List (Option String)) : Prop :=
  ∀ (i j : Nat) (made : String), given[i]? = some none → ids[i]? = some (some made) →
    ids[j]? = some (some made) → i = j

/-- **A clash** of the anchor made for a heading that asks for `base`, by what headings were given
and what they ask for. -/
inductive Clash (given asked : List (Option String)) (i : Nat) (base : String) : Prop where
  /-- The title, which asks for nothing, was given this anchor. -/
  | title (j : Nat) : asked[j]? = some none → given[j]? = some (some (madeAt asked i base)) →
      Clash given asked i base
  /-- A later heading was given this anchor, which has no number. -/
  | later (j : Nat) : some base ∉ asked.take i → i < j → given[j]? = some (some base) →
      Clash given asked i base
  /-- The anchor has a number, and with it is what another heading asks for. -/
  | number : some base ∈ asked.take i → some (madeAt asked i base) ∈ asked → Clash given asked i base

/-- How anchors go with what headings were given and what they ask for. -/
structure Assigned (given asked ids : List (Option String)) : Prop where
  asked_length : asked.length = given.length
  ids_length : ids.length = given.length
  kept : ∀ {i : Nat} {id : String}, given[i]? = some (some id) → ids[i]? = some (some id) ∧
    (asked[i]? = some none ∨ asked[i]? = some (some id))
  made : ∀ {i : Nat} {base : String}, given[i]? = some none → asked[i]? = some (some base) →
    ids[i]? = some (some (madeAt asked i base))
  title : ∀ {i : Nat}, given[i]? = some none → asked[i]? = some none → ids[i]? = some none

theorem getElem?_of_length {l l' : List (Option String)} (h : l.length = l'.length) {i : Nat}
    {x : Option String} (hi : l[i]? = some x) : ∃ y, l'[i]? = some y :=
  ⟨_, List.getElem?_eq_getElem (h ▸ (List.getElem?_eq_some_iff.1 hi).1)⟩

theorem mem_take_of_lt {l : List (Option String)} {x : Option String} {i j : Nat} (h : l[i]? = some x)
    (hij : i < j) : x ∈ l.take j :=
  List.mem_of_getElem? (by rw [List.getElem?_take_of_lt hij, h])

/-- A request counts for all that come after it. -/
theorem count_take_lt {l : List (Option String)} {x : Option String} {i j : Nat} (h : l[i]? = some x)
    (hij : i < j) : (l.take i).count x < (l.take j).count x := by
  have hnext : (l.take (i + 1)).count x ≤ (l.take j).count x :=
    (List.take_sublist_take_left hij).count_le x
  rw [List.take_add_one, h, List.count_append, Option.toList_some, List.count_singleton_self] at hnext
  omega

/-- Among equal requests there is a first one. -/
theorem exists_first {x : Option String} : ∀ {l : List (Option String)}, x ∈ l →
    ∃ j : Nat, l[j]? = some x ∧ x ∉ l.take j
  | y :: l, h => by
    by_cases hy : y = x
    · exact ⟨0, by simp [hy], by simp⟩
    · obtain ⟨j, hj, hfirst⟩ := exists_first ((List.mem_cons.1 h).resolve_left (Ne.symm hy))
      exact ⟨j + 1, hj, by simp [Ne.symm hy, hfirst]⟩

theorem madeAt_first {i : Nat} {base : String} (h : some base ∉ asked.take i) :
    madeAt asked i base = base := by
  rw [madeAt, List.count_eq_zero_of_not_mem h]
  rfl

theorem madeAt_ne {i : Nat} {base : String} (h : some base ∈ asked.take i) :
    base ≠ madeAt asked i base :=
  numbered_ne (List.count_pos_iff.2 h)

/-- Two anchors with a number are never the same. -/
theorem madeAt_inj {i j : Nat} {base base' : String} (hi : asked[i]? = some (some base))
    (hj : asked[j]? = some (some base')) (hbase : some base ∈ asked.take i)
    (hbase' : some base' ∈ asked.take j) (h : madeAt asked i base = madeAt asked j base') :
    i = j := by
  obtain ⟨rfl, hcount⟩ := numbered_inj (List.count_pos_iff.2 hbase) (List.count_pos_iff.2 hbase') h
  rcases Nat.lt_trichotomy i j with hij | hij | hij
  · have := count_take_lt hi hij
    omega
  · exact hij
  · have := count_take_lt hj hij
    omega

namespace Assigned

variable {i j : Nat} {base made : String}

theorem asked_of_made (h : Assigned given asked ids) (hi : given[i]? = some none)
    (hid : ids[i]? = some (some made)) :
    ∃ base, asked[i]? = some (some base) ∧ madeAt asked i base = made := by
  obtain ⟨_ | base, hasked⟩ := getElem?_of_length h.asked_length.symm hi
  · cases (h.title hi hasked).symm.trans hid
  · exact ⟨base, hasked, by simpa using (h.made hi hasked).symm.trans hid⟩

theorem given_of_id (h : Assigned given asked ids) (hid : ids[j]? = some (some made)) :
    given[j]? = some none ∨
      given[j]? = some (some made) ∧ (asked[j]? = some none ∨ asked[j]? = some (some made)) := by
  obtain ⟨_ | id, hgiven⟩ := getElem?_of_length h.ids_length hid
  · exact .inl hgiven
  · obtain ⟨hkept, hasked⟩ := h.kept hgiven
    cases hkept.symm.trans hid
    exact .inr ⟨hgiven, hasked⟩

/-- **A clash gives an anchor twice.** -/
theorem twice_of_clash (h : Assigned given asked ids) (hasked : asked[i]? = some (some base))
    (hclash : Clash given asked i base) :
    ∃ j, i ≠ j ∧ ids[j]? = some (some (madeAt asked i base)) := by
  cases hclash with
  | title j hj hgiven =>
    refine ⟨j, fun hij => ?_, (h.kept hgiven).1⟩
    subst hij
    cases hasked.symm.trans hj
  | later j hfirst hij hgiven =>
    rw [madeAt_first hfirst]
    exact ⟨j, Nat.ne_of_lt hij, (h.kept hgiven).1⟩
  | number hnumber hmem =>
    -- the first heading that asks for the anchor gets it without a number
    obtain ⟨j, hj, hfirst⟩ := exists_first hmem
    refine ⟨j, fun hij => ?_, ?_⟩
    · subst hij
      exact madeAt_ne hnumber (by simpa using hasked.symm.trans hj)
    · obtain ⟨_ | id, hgiven⟩ := getElem?_of_length h.asked_length hj
      · rw [h.made hgiven hj, madeAt_first hfirst]
      · obtain ⟨hkept, hid⟩ := h.kept hgiven
        rw [hj] at hid
        simp only [Option.some.injEq, reduceCtorEq, false_or] at hid
        rw [hkept, hid]

/-- **An anchor that is there twice is a clash.** -/
theorem clash_of_twice (h : Assigned given asked ids) (hi : given[i]? = some none)
    (hid : ids[i]? = some (some made)) (hjd : ids[j]? = some (some made)) (hij : i ≠ j) :
    ∃ i base, given[i]? = some none ∧ asked[i]? = some (some base) ∧ Clash given asked i base := by
  obtain ⟨base, hasked, rfl⟩ := h.asked_of_made hi hid
  rcases h.given_of_id hjd with hj | ⟨hj, hasked' | hasked'⟩
  · obtain ⟨base', hasked', hmade⟩ := h.asked_of_made hj hjd
    -- which of the two anchors has a number: both, the first, the second, or none
    by_cases hbase : some base ∈ asked.take i <;> by_cases hbase' : some base' ∈ asked.take j
    · exact absurd (madeAt_inj hasked hasked' hbase hbase' hmade.symm) hij
    · rw [madeAt_first hbase'] at hmade
      exact ⟨i, base, hi, hasked, .number hbase (hmade ▸ List.mem_of_getElem? hasked')⟩
    · rw [madeAt_first hbase] at hmade
      exact ⟨j, base', hj, hasked', .number hbase' (hmade ▸ List.mem_of_getElem? hasked)⟩
    · rw [madeAt_first hbase, madeAt_first hbase'] at hmade
      subst hmade
      rcases Nat.lt_or_gt_of_ne hij with hlt | hlt
      · exact absurd (mem_take_of_lt hasked hlt) hbase'
      · exact absurd (mem_take_of_lt hasked' hlt) hbase
  · exact ⟨i, base, hi, hasked, .title j hasked' hj⟩
  · by_cases hbase : some base ∈ asked.take i
    · exact ⟨i, base, hi, hasked, .number hbase (List.mem_of_getElem? hasked')⟩
    · rw [madeAt_first hbase] at hj hasked'
      rcases Nat.lt_or_gt_of_ne hij with hlt | hlt
      · exact ⟨i, base, hi, hasked, .later j hbase hlt hj⟩
      · exact absurd (mem_take_of_lt hasked' hlt) hbase

/-- **Anchors are unique unless there is a clash.** -/
theorem madeUnique_iff (h : Assigned given asked ids) :
    MadeUnique given ids ↔ ¬ ∃ i base, given[i]? = some none ∧ asked[i]? = some (some base) ∧
      Clash given asked i base := by
  constructor
  · rintro hunique ⟨i, base, hi, hasked, hclash⟩
    obtain ⟨j, hij, hj⟩ := h.twice_of_clash hasked hclash
    exact hij (hunique i j _ hi (h.made hi hasked) hj)
  · intro hclash i j made hi hid hjd
    exact Decidable.byContradiction fun hij => hclash (h.clash_of_twice hi hid hjd hij)

end Assigned

end Unique

theorem length_requests : ∀ (extract : Bool) (hs : List Heading),
    (requests extract hs).length = hs.length
  | _, [] => rfl
  | extract, h :: rest => by simp [requests, length_requests _ rest]

theorem length_visitAll (policy : HeadingPolicy) : ∀ (p : Progress) (hs : List Heading),
    (visitAll policy p hs).1.length = hs.length
  | _, [] => rfl
  | p, h :: rest => by simp [visitAll, length_visitAll policy _ rest]

/-- The headings of a page get their anchors by what they were given and ask for. -/
theorem assigned_outlined (n : Node) (extract : Bool) :
    Assigned (n.headings.map (·.id)) (requests extract n.headings)
      ((n.outlined ⟨true, extract⟩).1.headings.map (·.id)) := by
  have hrun : (n.outlined ⟨true, extract⟩).1.headings = (visitAll ⟨true, extract⟩ {} n.headings).1 :=
    congrArg Prod.fst (headings_walk ⟨true, extract⟩ n {})
  have hat : ∀ {i : Nat} {given : Option String}, (n.headings.map (·.id))[i]? = some given → ∃ h e,
      h.id = given ∧ (requests extract n.headings)[i]? = some (request e h) ∧
      ((visitAll ⟨true, extract⟩ {} n.headings).1.map (·.id))[i]? =
        some (anchor ((requests extract n.headings).take i) given (request e h)) := by
    intro i given hi
    rw [List.getElem?_map] at hi
    obtain ⟨h, hh, rfl⟩ := Option.map_eq_some_iff.1 hi
    obtain ⟨e, hrequest, hid⟩ := @id_visitAll extract _ {} [] _ _ (fun _ => rfl) hh
    exact ⟨h, e, rfl, by simpa using hrequest, by simpa using hid⟩
  rw [hrun]
  refine ⟨by simp [length_requests], by simp [length_visitAll], fun hi => ?_, fun hi hasked => ?_,
    fun hi hasked => ?_⟩
  · obtain ⟨h, e, hgiven, hrequest, hid⟩ := hat hi
    refine ⟨hid, ?_⟩
    rw [hrequest, request, hgiven]
    split <;> simp
  · obtain ⟨h, e, -, hrequest, hid⟩ := hat hi
    rw [hid, Option.some.inj (hrequest.symm.trans hasked)]
    rfl
  · obtain ⟨h, e, -, hrequest, hid⟩ := hat hi
    rw [hid, Option.some.inj (hrequest.symm.trans hasked)]
    rfl

/-- **Anchors of a page**: what a heading was given stays, and no anchor that is made is the anchor
of another heading, unless there is a clash. -/
theorem madeUnique_outlined_iff (n : Node) (extract : Bool) :
    (∀ (i : Nat) (id : String), (n.headings.map (·.id))[i]? = some (some id) →
      ((n.outlined ⟨true, extract⟩).1.headings.map (·.id))[i]? = some (some id)) ∧
    (MadeUnique (n.headings.map (·.id)) ((n.outlined ⟨true, extract⟩).1.headings.map (·.id)) ↔
      ¬ ∃ i base, (n.headings.map (·.id))[i]? = some none ∧
        (requests extract n.headings)[i]? = some (some base) ∧
        Clash (n.headings.map (·.id)) (requests extract n.headings) i base) :=
  have h := assigned_outlined n extract
  ⟨fun _ _ hid => (h.kept hid).1, h.madeUnique_iff⟩

/-- A heading of level one with a text. -/
def headingOf (text : String) : Node := ⟨.heading 1 none [], [.text text], none⟩

/-- Three headings, the last of which asks for what the second one gets. -/
def numberedHeadings : Node := ⟨.root, [headingOf "A", headingOf "A", headingOf "A 1"], none⟩

/-- The second and the third of these headings have the same anchor. -/
theorem numbered_anchor_twice :
    (numberedHeadings.outlined ⟨true, false⟩).1.headings.map (·.id) =
        [some "a", some "a-1", some "a-1"] ∧
      ¬ MadeUnique (numberedHeadings.headings.map (·.id))
        ((numberedHeadings.outlined ⟨true, false⟩).1.headings.map (·.id)) := by
  have hids : (numberedHeadings.outlined ⟨true, false⟩).1.headings.map (·.id) =
      [some "a", some "a-1", some "a-1"] := by decide +kernel
  refine ⟨hids, fun h => ?_⟩
  rw [hids] at h
  exact absurd (h 1 2 "a-1" rfl rfl rfl) (by decide)

end Outline

end WikiPage
