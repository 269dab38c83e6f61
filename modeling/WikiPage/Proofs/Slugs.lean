import WikiPage.Proofs.LowerCase
import WikiPage.Text.Trim
/-!
# The shape of a slug

A slug is made of settled letters and single dashes between them.  The one thing besides is the combining
dot that a capital I with a dot leaves behind its i; it is no letter, and so the slug of a slug has lost
it.

* `Slugged` says how a slug goes on, from its start or after a dash; `slugged_slugChars`: every slug does.
* `Slugged.slugChars_eq`: what a second slug leaves out is the combining dots.
* `slugify_shape`: dashes, characters and stability of a slug.  `slugify_dotted` is a slug with a dot.
-/

namespace WikiPage.Text

open Unicode

/-! ## 1. Slugs -/

/-- How a slug goes on, at the start and after a dash, or behind a letter.  No dash ends it. -/
inductive Slugged : (afterDash : Bool) → List Char → Prop where
  | nil {afterDash} : Slugged afterDash []
  | letter {afterDash c rest} (hc : IsSettled c) (further : Slugged false rest) :
      Slugged afterDash (c :: rest)
  | dot {rest} (further : Slugged false rest) : Slugged false (combiningDot :: rest)
  | dash {rest} (hne : rest ≠ []) (further : Slugged true rest) : Slugged false ('-' :: rest)

theorem settled_ne {c : Char} (hc : IsSettled c) : c ≠ '-' ∧ c ≠ combiningDot := by
  constructor <;>
  · rintro rfl
    exact absurd hc.1 (by decide +kernel)

theorem dropLastDash_cons {c : Char} {s : List Char} (h : s ≠ [] ∨ c ≠ '-') :
    dropLastDash (c :: s) = c :: dropLastDash s := by
  cases s with
  | nil =>
    have hc : c ≠ '-' := h.resolve_left fun h => h rfl
    simp [dropLastDash, hc]
  | cons d s =>
    simp only [dropLastDash, List.getLast?_cons_cons]
    split <;> rfl

/-- The lower case form of a letter, at the start of what follows. -/
theorem lowercase_cases {c : Char} (h : isAlphanumeric c = true) :
    (c ≠ 'İ' ∧ ∃ d, lowercase c = [d] ∧ IsSettled d) ∨
      c = 'İ' ∧ lowercase c = ['i', combiningDot] := by
  by_cases hc : c = 'İ'
  · exact .inr ⟨hc, hc ▸ lowercase_dotted⟩
  · exact .inl ⟨hc, settled_lowercase h hc⟩

/-- After a dash there is none. -/
theorem head?_slugChars_true : ∀ text : List Char, (slugChars true text).head? ≠ some '-'
  | [] => by simp [slugChars]
  | c :: rest => by
    unfold slugChars
    split
    · rename_i hc
      rcases lowercase_cases hc with ⟨-, d, hd, hsettled⟩ | ⟨-, hd⟩
      · simpa [hd] using (settled_ne hsettled).1
      · simp [hd]
    · simpa using head?_slugChars_true rest

/-- **Every slug goes on like that.** -/
theorem slugged_slugChars : ∀ (text : List Char) (afterDash : Bool),
    Slugged afterDash (dropLastDash (slugChars afterDash text))
  | [], _ => .nil
  | c :: rest, afterDash => by
    unfold slugChars
    split
    · rename_i hc
      have ih := slugged_slugChars rest false
      rcases lowercase_cases hc with ⟨-, d, hd, hsettled⟩ | ⟨-, hd⟩
      · rw [hd, List.singleton_append, dropLastDash_cons (.inr (settled_ne hsettled).1)]
        exact .letter hsettled ih
      · rw [hd, List.cons_append, List.singleton_append, dropLastDash_cons (.inr (by decide)),
          dropLastDash_cons (.inr (by decide))]
        exact .letter settled_i (.dot ih)
    split
    · rename_i hbreak
      obtain rfl : afterDash = false := by simpa using (Bool.and_eq_true_iff.1 hbreak).1
      have ih := slugged_slugChars rest true
      by_cases hne : slugChars true rest = []
      · rw [hne]
        exact .nil
      · rw [dropLastDash_cons (.inl hne)]
        refine .dash (fun hnil => ?_) ih
        obtain ⟨d, s, hs⟩ := List.exists_cons_of_ne_nil hne
        have hd : d ≠ '-' := fun hd => head?_slugChars_true rest (by rw [hs, hd]; rfl)
        rw [hs, dropLastDash_cons (.inr hd)] at hnil
        cases hnil
    · exact slugged_slugChars rest afterDash

/-! ## 2. What a slug looks like -/

namespace Slugged

variable {afterDash : Bool} {s : List Char}

theorem mem_cases (h : Slugged afterDash s) {c : Char} (hc : c ∈ s) :
    isAlphanumeric c = true ∨ c = '-' ∨ c = combiningDot := by
  induction h with
  | nil => cases hc
  | letter hd _ ih =>
    rcases List.mem_cons.1 hc with rfl | hc
    · exact .inl hd.1
    · exact ih hc
  | dot _ ih =>
    rcases List.mem_cons.1 hc with rfl | hc
    · exact .inr (.inr rfl)
    · exact ih hc
  | dash _ _ ih =>
    rcases List.mem_cons.1 hc with rfl | hc
    · exact .inr (.inl rfl)
    · exact ih hc

/-- At the start and after a dash a slug goes on with a letter. -/
theorem letter_of_true (h : Slugged true s) :
    s = [] ∨ ∃ c rest, s = c :: rest ∧ IsSettled c := by
  cases h with
  | nil => exact .inl rfl
  | letter hc _ => exact .inr ⟨_, _, rfl, hc⟩

theorem head?_ne (h : Slugged true s) : s.head? ≠ some '-' := by
  rcases h.letter_of_true with rfl | ⟨c, rest, rfl, hc⟩
  · simp
  · simpa using (settled_ne hc).1

theorem getLast?_ne (h : Slugged afterDash s) : s.getLast? ≠ some '-' := by
  induction h with
  | nil => simp
  | @letter _ c rest hc _ ih =>
    cases rest with
    | nil => simpa using (settled_ne hc).1
    | cons d rest => rwa [List.getLast?_cons_cons]
  | @dot rest _ ih =>
    cases rest with
    | nil => decide
    | cons d rest => rwa [List.getLast?_cons_cons]
  | @dash rest hne _ ih =>
    obtain ⟨d, rest, rfl⟩ := List.exists_cons_of_ne_nil hne
    rwa [List.getLast?_cons_cons]

/-- No two dashes stand side by side. -/
theorem dashes_apart (h : Slugged afterDash s) : ¬ ['-', '-'] <:+: s := by
  induction h with
  | nil => simp
  | letter hc _ ih =>
    rw [List.infix_cons_iff, not_or]
    refine ⟨fun hstart => (settled_ne hc).1 ?_, ih⟩
    exact (List.cons_prefix_cons.1 hstart).1.symm
  | dot _ ih =>
    rw [List.infix_cons_iff, not_or]
    exact ⟨fun hstart => absurd (List.cons_prefix_cons.1 hstart).1 (by decide), ih⟩
  | dash _ further ih =>
    rw [List.infix_cons_iff, not_or]
    refine ⟨fun hstart => further.head?_ne ?_, ih⟩
    obtain ⟨rest, hrest⟩ := (List.cons_prefix_cons.1 hstart).2
    rw [← hrest]
    rfl

theorem filter_letter {c : Char} (hc : IsSettled c) (rest : List Char) :
    (c :: rest).filter (· != combiningDot) = c :: rest.filter (· != combiningDot) := by
  simp [(settled_ne hc).2]

/-- What is left of a slug without the combining dots is a slug. -/
theorem withoutDots (h : Slugged afterDash s) : Slugged afterDash (s.filter (· != combiningDot)) := by
  induction h with
  | nil => exact .nil
  | letter hc _ ih =>
    rw [filter_letter hc]
    exact .letter hc ih
  | @dot rest _ ih =>
    rw [List.filter_cons_of_neg (by simp)]
    exact ih
  | dash hne further ih =>
    rw [List.filter_cons_of_pos (by decide)]
    refine .dash ?_ ih
    rcases further.letter_of_true with hnil | ⟨c, rest, rfl, hc⟩
    · exact absurd hnil hne
    · rw [filter_letter hc]
      exact List.cons_ne_nil _ _

/-- **A second slug** leaves out the combining dots, and nothing else. -/
theorem slugChars_eq (h : Slugged afterDash s) :
    slugChars afterDash s = s.filter (· != combiningDot) := by
  induction h with
  | nil => rfl
  | letter hc _ ih =>
    rw [slugChars, if_pos hc.1, hc.2, ih, filter_letter hc]
    rfl
  | dot _ ih =>
    have hbreak : isSlugBreak combiningDot = false := by decide
    rw [slugChars, if_neg (by rw [isAlphanumeric_combiningDot]; exact Bool.false_ne_true), hbreak,
      Bool.and_false, if_neg Bool.false_ne_true, ih, List.filter_cons_of_neg (by simp)]
  | dash _ _ ih =>
    have hbreak : isSlugBreak '-' = true := by decide
    have hletter : isAlphanumeric '-' = false := by decide
    rw [slugChars, if_neg (by rw [hletter]; exact Bool.false_ne_true), hbreak, if_pos (by decide), ih,
      List.filter_cons_of_pos (by decide)]

end Slugged

theorem dropLastDash_eq_self {s : List Char} (h : s.getLast? ≠ some '-') : dropLastDash s = s :=
  if_neg h

theorem mem_dropLastDash {c : Char} (hc : c ≠ '-') {s : List Char} :
    c ∈ dropLastDash s ↔ c ∈ s := by
  unfold dropLastDash
  split
  · rename_i hlast
    obtain ⟨rest, rfl⟩ := List.getLast?_eq_some_iff.1 hlast
    simp [hc]
  · rfl

/-- A combining dot comes from a capital I with a dot, and from nothing else. -/
theorem mem_slugChars : ∀ (text : List Char) (afterDash : Bool),
    combiningDot ∈ slugChars afterDash text ↔ 'İ' ∈ text
  | [], _ => by simp [slugChars]
  | c :: rest, afterDash => by
    unfold slugChars
    split
    · rename_i hc
      have ih := mem_slugChars rest false
      rcases lowercase_cases hc with ⟨hne, d, hd, hsettled⟩ | ⟨rfl, hd⟩
      · simp [hd, ih, (settled_ne hsettled).2.symm, hne.symm]
      · simp [hd]
    rename_i hc
    have hne : 'İ' ≠ c := by
      rintro rfl
      exact hc (by decide +kernel)
    split
    · have hdash : combiningDot ≠ '-' := by decide
      simp [mem_slugChars rest true, hne, hdash]
    · simp [mem_slugChars rest afterDash, hne]

/-! ## 3. Slugs of texts -/

theorem toList_slugify (text : String) :
    (slugify text).toList = dropLastDash (slugChars true text.toList) := String.toList_ofList

theorem slugged_slugify (text : String) : Slugged true (slugify text).toList := by
  rw [toList_slugify]
  exact slugged_slugChars text.toList true

theorem combiningDot_mem_slugify {text : String} :
    combiningDot ∈ (slugify text).toList ↔ 'İ' ∈ text.toList := by
  rw [toList_slugify, mem_dropLastDash (by decide), mem_slugChars]

/-- The slug of a slug is the slug without its combining dots. -/
theorem slugify_slugify (text : String) :
    (slugify (slugify text)).toList = (slugify text).toList.filter (· != combiningDot) := by
  have h := slugged_slugify text
  rw [toList_slugify (slugify text), h.slugChars_eq, dropLastDash_eq_self h.withoutDots.getLast?_ne]

/-- **The shape of a slug**: no dash at its ends and no two side by side.  It has letters, digits and
dashes only, and is its own slug, exactly when the text has no capital I with a dot. -/
theorem slugify_shape (text : String) :
    (slugify text).toList.head? ≠ some '-' ∧ (slugify text).toList.getLast? ≠ some '-' ∧
      ¬ ['-', '-'] <:+: (slugify text).toList ∧
      ((∀ c ∈ (slugify text).toList, isAlphanumeric c = true ∨ c = '-') ↔ 'İ' ∉ text.toList) ∧
      (slugify (slugify text) = slugify text ↔ 'İ' ∉ text.toList) := by
  have h := slugged_slugify text
  refine ⟨h.head?_ne, h.getLast?_ne, h.dashes_apart, ?_, ?_⟩
  · rw [← combiningDot_mem_slugify]
    constructor
    · intro hall hdot
      have := hall combiningDot hdot
      rw [isAlphanumeric_combiningDot] at this
      exact absurd this (by decide)
    · intro hdot c hc
      rcases h.mem_cases hc with hc' | hc' | rfl
      · exact .inl hc'
      · exact .inr hc'
      · exact absurd hc hdot
  · rw [← combiningDot_mem_slugify, ← String.toList_inj, slugify_slugify, List.filter_eq_self]
    constructor
    · intro hall hdot
      simpa using hall combiningDot hdot
    · intro hdot c hc
      exact bne_iff_ne.2 fun heq => hdot (heq ▸ hc)

/-- A capital I with a dot leaves a combining dot in the slug, and the slug of that slug has none. -/
theorem slugify_dotted :
    slugify "İ" = "i\u0307" ∧ isAlphanumeric '\u0307' = false ∧
      slugify (slugify "İ") = "i" ∧ slugify (slugify "İ") ≠ slugify "İ" := by
  decide +kernel

end WikiPage.Text
