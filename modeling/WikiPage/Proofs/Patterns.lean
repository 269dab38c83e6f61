import WikiPage.Text.Pattern
/-!
# What patterns find

A pattern is tried with what comes next, so what it finds is said of both together: the part of a
pattern from some place on finds, as the text of the group, what a function of the text there finds.

* `behind`, `maybeBehind` and `lastOnLine` look for something behind a word, behind one that may be
  left out, and at the last place of a line.  `exists_lastFound` and `LastFound.lastOnLine_eq` say
  which place that is.
* `lastOnLine_congr`: two functions find the same last thing when they agree wherever nothing is found
  later.  So parts that take as much as they can may be left out where they change nothing.
* `Finds` relates patterns and functions, with one lemma for each kind of pattern.
-/

namespace WikiPage

namespace Text

/-! ## 1. Finding in a text -/

section Finding

variable {α : Type} {f g : List Char → Option α} {word text : List Char} {a : α}

/-- What a function finds behind a word that the text begins with. -/
def behind (f : List Char → Option α) : (word text : List Char) → Option α
  | [], text => f text
  | _ :: _, [] => none
  | c :: word, x :: text => if x = c then behind f word text else none

/-- Something is found behind a word just where the word stands. -/
theorem behind_eq_some_iff :
    behind f word text = some a ↔ ∃ rest, text = word ++ rest ∧ f rest = some a := by
  induction word generalizing text with
  | nil => simp [behind]
  | cons c word ih =>
    cases text with
    | nil => simp [behind]
    | cons x text =>
      rw [behind]
      split
      · rename_i heq
        rw [ih, heq]
        simp
      · rename_i hne
        simp [hne]

theorem behind_eq_none (h : ∀ rest, text = word ++ rest → f rest = none) :
    behind f word text = none := by
  refine Option.eq_none_iff_forall_ne_some.2 fun a ha => ?_
  obtain ⟨rest, rfl, hrest⟩ := behind_eq_some_iff.1 ha
  rw [h rest rfl] at hrest
  cases hrest

/-- What a function finds behind a word that may also be left out. -/
def maybeBehind (f : List Char → Option α) (word text : List Char) : Option α :=
  (behind f word text).or (f text)

theorem maybeBehind_eq_some (h : maybeBehind f word text = some a) :
    f text = some a ∨ ∃ rest, text = word ++ rest ∧ f rest = some a :=
  (Option.or_eq_some_iff.1 h).symm.imp And.right behind_eq_some_iff.1

theorem behind_append (word rest : List Char) : behind f word (word ++ rest) = f rest := by
  induction word with
  | nil => rfl
  | cons c word ih => rw [List.cons_append, behind, if_pos rfl, ih]

/-- What a text goes on with at each place of its first line, the end of the line included. -/
def lineTails : List Char → List (List Char)
  | [] => [[]]
  | c :: rest => (c :: rest) :: if c = '\n' then [] else lineTails rest

/-- What a function finds at the last place of the first line at which it finds anything. -/
def lastOnLine (f : List Char → Option α) (text : List Char) : Option α :=
  (lineTails text).reverse.findSome? f

theorem lineTails_eq_cons (text : List Char) : lineTails text = text :: (lineTails text).tail := by
  cases text <;> rfl

theorem tail_lineTails_cons {c : Char} (hc : c ≠ '\n') :
    (lineTails (c :: text)).tail = lineTails text := by
  rw [lineTails, if_neg hc]
  rfl

/-- A place of a line is one of the line with more text in front. -/
theorem mem_lineTails_append {before rest : List Char} (hbefore : '\n' ∉ before)
    (h : rest ∈ lineTails text) : rest ∈ lineTails (before ++ text) := by
  induction before with
  | nil => exact h
  | cons c before ih =>
    rw [List.cons_append, lineTails, if_neg (List.ne_of_not_mem_cons hbefore).symm]
    exact List.mem_cons_of_mem _ (ih (List.not_mem_of_not_mem_cons hbefore))

theorem lastOnLine_eq_or : lastOnLine f text =
    ((lineTails text).tail.reverse.findSome? f).or (f text) := by
  cases text <;> simp [lastOnLine, lineTails, List.findSome?_append]

theorem lastOnLine_cons {c : Char} (hc : c ≠ '\n') :
    lastOnLine f (c :: text) = (lastOnLine f text).or (f (c :: text)) := by
  rw [lastOnLine_eq_or, tail_lineTails_cons hc]
  rfl

/-- Nothing is found on a line just when nothing is found at any place of it. -/
theorem lastOnLine_eq_none_iff :
    lastOnLine f text = none ↔ ∀ rest ∈ lineTails text, f rest = none := by
  simp [lastOnLine]

/-- Where nothing is found later, the last thing is what is found here. -/
theorem lastOnLine_of_later (h : ∀ rest ∈ (lineTails text).tail, f rest = none) :
    lastOnLine f text = f text := by
  have hlater : (lineTails text).tail.reverse.findSome? f = none := by simpa using h
  rw [lastOnLine_eq_or, hlater]
  rfl

theorem lastOnLine_nil : lastOnLine f [] = f [] := lastOnLine_of_later (by simp [lineTails])

theorem lastOnLine_newline : lastOnLine f ('\n' :: text) = f ('\n' :: text) :=
  lastOnLine_of_later (by simp [lineTails])

/-- What is found last is still found last with more text of the line in front. -/
theorem lastOnLine_append {before : List Char} (hbefore : '\n' ∉ before)
    (h : lastOnLine f text = some a) : lastOnLine f (before ++ text) = some a := by
  induction before with
  | nil => exact h
  | cons c before ih =>
    rw [List.cons_append, lastOnLine_cons (List.ne_of_not_mem_cons hbefore).symm,
      ih (List.not_mem_of_not_mem_cons hbefore)]
    rfl

/-- The last thing on a line is the same when some word may be left out before it. -/
theorem maybeBehind_lastOnLine (hword : '\n' ∉ word) :
    maybeBehind (lastOnLine f) word = lastOnLine f := by
  funext text
  rw [maybeBehind]
  cases h : behind (lastOnLine f) word text with
  | none => rfl
  | some a =>
    obtain ⟨rest, rfl, hrest⟩ := behind_eq_some_iff.1 h
    rw [lastOnLine_append hword hrest]
    rfl

/-- **Two functions find the same last thing** when they agree wherever nothing is found later. -/
theorem lastOnLine_congr
    (h : ∀ text, (∀ rest ∈ (lineTails text).tail, g rest = none) → f text = g text)
    (text : List Char) : lastOnLine f text = lastOnLine g text := by
  induction text with
  | nil =>
    rw [lastOnLine_nil, lastOnLine_nil]
    exact h [] (by simp [lineTails])
  | cons c text ih =>
    by_cases hc : c = '\n'
    · subst hc
      rw [lastOnLine_newline, lastOnLine_newline]
      exact h _ (by simp [lineTails])
    · rw [lastOnLine_cons hc, lastOnLine_cons hc, ih]
      cases hlater : lastOnLine g text with
      | some a => rfl
      | none =>
        exact h _ ((tail_lineTails_cons hc).symm ▸ lastOnLine_eq_none_iff.1 hlater)

/-- A place of the first line at which a function finds something, given by what is before it. -/
structure FoundAt (f : List Char → Option α) (text before rest : List Char) : Prop where
  text_eq : text = before ++ rest
  line : '\n' ∉ before
  found : (f rest).isSome = true

theorem FoundAt.cons {before rest : List Char} {c : Char} (h : FoundAt f text before rest)
    (hc : c ≠ '\n') : FoundAt f (c :: text) (c :: before) rest :=
  ⟨by rw [h.text_eq, List.cons_append], List.not_mem_cons_of_ne_of_not_mem hc.symm h.line,
    h.found⟩

/-- A place where something is found is the first one of the text, or it is one of what follows. -/
theorem FoundAt.cons_cases {before rest : List Char} {c : Char}
    (h : FoundAt f (c :: text) before rest) :
    before = [] ∨ ∃ before', before = c :: before' ∧ c ≠ '\n' ∧ FoundAt f text before' rest := by
  cases before with
  | nil => exact .inl rfl
  | cons x before =>
    obtain ⟨rfl, heq⟩ := List.cons.inj h.text_eq
    exact .inr ⟨before, rfl, (List.ne_of_not_mem_cons h.line).symm, heq,
      List.not_mem_of_not_mem_cons h.line, h.found⟩

theorem lastOnLine_ne_none {before rest : List Char} (h : FoundAt f text before rest) :
    lastOnLine f text ≠ none := by
  intro hnone
  have hrest : rest ∈ lineTails rest := by
    rw [lineTails_eq_cons]
    exact List.mem_cons_self
  have hfound := h.found
  rw [lastOnLine_eq_none_iff.1 hnone rest (h.text_eq ▸ mem_lineTails_append h.line hrest)] at hfound
  cases hfound

/-- The last of these places. -/
structure LastFound (f : List Char → Option α) (text before rest : List Char) : Prop extends
    FoundAt f text before rest where
  last : ∀ before' rest', FoundAt f text before' rest' → before'.length ≤ before.length

/-- The first place is the last one when nothing is found later on its line. -/
theorem lastFound_nil (h : f text = some a)
    (hlater : ∀ c rest, text = c :: rest → c ≠ '\n' → lastOnLine f rest = none) :
    LastFound f text [] text := by
  refine ⟨⟨rfl, by simp, by rw [h]; rfl⟩, fun before' rest' hother => ?_⟩
  cases text with
  | nil => exact Nat.le_of_eq (congrArg List.length (List.append_eq_nil_iff.1 hother.text_eq.symm).1)
  | cons c text =>
    obtain rfl | ⟨before', -, hc, hother⟩ := hother.cons_cases
    · exact Nat.le_refl _
    · exact absurd (hlater c text rfl hc) (lastOnLine_ne_none hother)

/-- **What is found last** is found at the last place. -/
theorem exists_lastFound (h : lastOnLine f text = some a) :
    ∃ before rest, LastFound f text before rest ∧ f rest = some a := by
  induction text with
  | nil =>
    rw [lastOnLine_nil] at h
    exact ⟨[], [], lastFound_nil h (by simp), h⟩
  | cons c text ih =>
    by_cases hc : c = '\n'
    · subst hc
      rw [lastOnLine_newline] at h
      exact ⟨[], _, lastFound_nil h fun _ _ heq hne => absurd (List.cons.inj heq).1.symm hne, h⟩
    · rw [lastOnLine_cons hc] at h
      rcases Option.or_eq_some_iff.1 h with hlater | ⟨hnone, hfound⟩
      · obtain ⟨before, rest, hplace, hfound⟩ := ih hlater
        refine ⟨c :: before, rest, ⟨hplace.toFoundAt.cons hc, fun before' rest' hother => ?_⟩, hfound⟩
        obtain rfl | ⟨before', rfl, -, hother⟩ := hother.cons_cases
        · exact Nat.zero_le _
        · exact Nat.succ_le_succ (hplace.last before' rest' hother)
      · refine ⟨[], _, lastFound_nil hfound fun _ rest heq _ => ?_, hfound⟩
        rw [← (List.cons.inj heq).2, hnone]

/-- What is found at the last place is found last. -/
theorem LastFound.lastOnLine_eq {before rest : List Char} (h : LastFound f text before rest) :
    lastOnLine f text = f rest := by
  obtain ⟨b, hb⟩ := Option.ne_none_iff_exists'.1 (lastOnLine_ne_none h.toFoundAt)
  obtain ⟨before', rest', h', hb'⟩ := exists_lastFound hb
  -- both places are the last one
  have hlength : before'.length = before.length :=
    Nat.le_antisymm (h.last _ _ h'.toFoundAt) (h'.last _ _ h.toFoundAt)
  obtain ⟨rfl, rfl⟩ := List.append_inj (h'.text_eq.symm.trans h.text_eq) hlength
  rw [hb, hb']

/-- What stands on the first line of a text. -/
def firstLine (text : List Char) : List Char := text.takeWhile (· != '\n')

theorem firstLine_cons {c : Char} (hc : c ≠ '\n') : firstLine (c :: text) = c :: firstLine text :=
  List.takeWhile_cons_of_pos (by simpa using hc)

theorem newline_notMem_firstLine : '\n' ∉ firstLine text :=
  fun h => absurd (List.all_eq_true.1 List.all_takeWhile _ h) (by simp)

theorem behind_firstLine (hword : '\n' ∉ word) :
    behind f word (firstLine text) = behind (fun text => f (firstLine text)) word text := by
  induction word generalizing text with
  | nil => rfl
  | cons c word ih =>
    cases text with
    | nil => rfl
    | cons x text =>
      by_cases hx : x = c
      · rw [hx, firstLine_cons (List.ne_of_not_mem_cons hword).symm, behind, behind, if_pos rfl,
          if_pos rfl, ih (List.not_mem_of_not_mem_cons hword)]
      · rw [behind, if_neg hx]
        by_cases hline : x = '\n'
        · rw [hline, firstLine, List.takeWhile_cons_of_neg (by simp), behind]
        · rw [firstLine_cons hline, behind, if_neg hx]

/-- The last thing on the first line is found there, if this line is all that is looked at. -/
theorem lastOnLine_firstLine (h : ∀ rest, f (firstLine rest) = f rest) (text : List Char) :
    lastOnLine f (firstLine text) = lastOnLine f text := by
  induction text with
  | nil => rfl
  | cons c text ih =>
    by_cases hc : c = '\n'
    · subst hc
      have hfirst : firstLine ('\n' :: text) = [] := List.takeWhile_cons_of_neg (by simp)
      rw [lastOnLine_newline, ← h, hfirst, lastOnLine_nil]
    · rw [firstLine_cons hc, lastOnLine_cons hc, lastOnLine_cons hc, ih, ← firstLine_cons hc, h]

end Finding

/-! ## 2. What patterns find -/

namespace Pattern

variable {p q : Pattern} {next : Place → Option Place} {f g : List Char → Option (List Char)}

/-- Whether what comes next in a pattern finds, as the text of the group, what a function finds. -/
def Finds (next : Place → Option Place) (f : List Char → Option (List Char)) : Prop :=
  ∀ start text, (next ⟨start, text, none⟩).map Place.kept = (f text).map some

/-- Of two ways to go on, the second one is taken if the first one does not go through. -/
theorem map_kept_orElse {x y : Option Place} {a b : Option (List Char)}
    (hx : x.map Place.kept = a.map some) (hy : y.map Place.kept = b.map some) :
    (x.orElse fun _ => y).map Place.kept = (a.or b).map some := by
  cases x with
  | none =>
    obtain rfl : a = none := by simpa using hx.symm
    exact hy
  | some found =>
    obtain ⟨id, rfl, -⟩ := Option.map_eq_some_iff.1 hx.symm
    exact hx

theorem Finds.seq (h : Finds (p.run · (q.run · next)) f) : Finds ((Pattern.seq p q).run · next) f := h

theorem Finds.alt (hp : Finds (p.run · next) f) (hq : Finds (q.run · next) g) :
    Finds ((Pattern.alt p q).run · next) fun text => (f text).or (g text) :=
  fun start text => map_kept_orElse (hp start text) (hq start text)

theorem Finds.optional (hp : Finds (p.run · next) f) (hnext : Finds next g) :
    Finds ((Pattern.optional p).run · next) fun text => (f text).or (g text) :=
  hp.alt hnext

theorem Finds.word (h : Finds next f) (w : String) :
    Finds ((Pattern.word w).run · next) (behind f w.toList) := by
  unfold Pattern.word
  generalize w.toList = cs
  induction cs with
  | nil => exact h
  | cons c cs ih =>
    intro start text
    cases text with
    | nil => rfl
    | cons x text =>
      by_cases hx : x = c
      · simpa [run, behind, hx] using ih false text
      · simp [run, behind, hx]

theorem Finds.maybeWord (h : Finds next f) (w : String) :
    Finds ((Pattern.optional (Pattern.word w)).run · next) (maybeBehind f w.toList) :=
  (h.word w).optional h

variable {accepts : Char → Bool} {start : Bool} {kept : Option (List Char)}

/-- One more repetition comes before none. -/
theorem run_many_char_cons {c : Char} (hc : accepts c = true) (rest : List Char) :
    (many (char accepts)).run ⟨start, c :: rest, kept⟩ next =
      ((many (char accepts)).run ⟨false, rest, kept⟩ next).orElse
        fun _ => next ⟨start, c :: rest, kept⟩ := by
  simp [run, runMany, hc]

/-- Where a character may not be repeated there is no repetition. -/
theorem run_many_char_of_not {text : List Char} (h : ∀ c ∈ text.head?, accepts c = false) :
    (many (char accepts)).run ⟨start, text, kept⟩ next = next ⟨start, text, kept⟩ := by
  cases text with
  | nil => rfl
  | cons c rest => simp [run, runMany, h c rfl]

theorem Finds.many_any (h : Finds next f) : Finds ((many any).run · next) (lastOnLine f) := by
  intro start text
  show ((many any).run ⟨start, text, none⟩ next).map Place.kept = _
  rw [any]
  induction text generalizing start with
  | nil =>
    rw [run_many_char_of_not (by simp), lastOnLine_nil]
    exact h start []
  | cons c text ih =>
    by_cases hc : c = '\n'
    · subst hc
      rw [run_many_char_of_not (by simp), lastOnLine_newline]
      exact h start _
    · rw [run_many_char_cons (by simpa using hc), lastOnLine_cons hc]
      exact map_kept_orElse (ih false) (h start _)

/-- The characters of a class that a text begins with, if there are any. -/
def leading? (accepts : Char → Bool) (text : List Char) : Option (List Char) :=
  if (text.takeWhile accepts).isEmpty then none else some (text.takeWhile accepts)

/-- As many characters as there are of a class are taken, when what comes next goes through. -/
theorem run_many_char_takeWhile {text : List Char} {id : List Char}
    (hnext : ∀ start, (next ⟨start, text.dropWhile accepts, kept⟩).map Place.kept = some (some id)) :
    ((many (char accepts)).run ⟨start, text, kept⟩ next).map Place.kept = some (some id) := by
  induction text generalizing start with
  | nil => exact hnext start
  | cons c text ih =>
    cases hc : accepts c with
    | false =>
      rw [run_many_char_of_not (by simp [hc])]
      simpa [hc] using hnext start
    | true =>
      have hlater := @ih false (by simpa [hc] using hnext)
      obtain ⟨found, hfound, hkept⟩ := Option.map_eq_some_iff.1 hlater
      rw [run_many_char_cons hc, hfound]
      exact congrArg some hkept

theorem take_sub_dropWhile (accepts : Char → Bool) (text : List Char) :
    text.take (text.length - (text.dropWhile accepts).length) = text.takeWhile accepts := by
  have hlength := congrArg List.length (text.takeWhile_append_dropWhile (p := accepts))
  rw [List.length_append] at hlength
  rw [show text.length - (text.dropWhile accepts).length = (text.takeWhile accepts).length by omega]
  exact (List.prefix_iff_eq_take.1 (List.takeWhile_prefix accepts)).symm

/-- A group takes all characters of its class, when what comes next goes through and keeps them. -/
theorem Finds.group
    (hnext : ∀ place : Place, (next place).map Place.kept = some place.kept) :
    Finds ((Pattern.group (many1 (char accepts))).run · next) (leading? accepts) := by
  intro start text
  cases text with
  | nil => rfl
  | cons c text =>
    cases hc : accepts c with
    | false => simp [run, many1, leading?, hc]
    | true =>
      have htaken := take_sub_dropWhile accepts (c :: text)
      rw [List.dropWhile_cons_of_pos hc] at htaken
      simp only [run, many1, hc, if_true, leading?, List.takeWhile_cons_of_pos hc,
        List.isEmpty_cons, Bool.false_eq_true, if_false, Option.map_some]
      refine run_many_char_takeWhile fun start => ?_
      rw [hnext, htaken, List.takeWhile_cons_of_pos hc]

/-- A pattern for the start of the text is tried there only. -/
theorem capture?_atStart {p : Pattern} (h : Finds (p.run · some) f) (text : String) :
    (seq atStart p).capture? text = (f text.toList).map String.ofList := by
  have hlater : ∀ cs, searchFrom (seq atStart p) false cs = none := by
    intro cs
    induction cs with
    | nil => rfl
    | cons c cs ih => exact ih
  have hsearch : searchFrom (seq atStart p) true text.toList =
      p.run ⟨true, text.toList, none⟩ some := by
    cases text.toList with
    | nil => rfl
    | cons c cs =>
      rw [searchFrom, hlater]
      show (p.run ⟨true, c :: cs, none⟩ some).orElse _ = _
      cases p.run ⟨true, c :: cs, none⟩ some <;> rfl
  have hfound : (p.run ⟨true, text.toList, none⟩ some).map Place.kept =
      (f text.toList).map some := h true text.toList
  calc (seq atStart p).capture? text
      = ((p.run ⟨true, text.toList, none⟩ some).map Place.kept).bind (Option.map String.ofList) := by
        rw [capture?, hsearch, Option.bind_map]
        rfl
    _ = (f text.toList).map String.ofList := by
        rw [hfound]
        cases f text.toList <;> rfl

end Pattern

end Text

end WikiPage
