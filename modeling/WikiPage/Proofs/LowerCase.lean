import WikiPage.Text.Slug
/-!
# Lower case is settled

The lower case form of a letter is a letter that stays as it is in lower case.  For the characters above
the ASCII ones this is read off the tables, a run of letters at a time: a run has to lead into a range of
letters, and to code points that no run changes.  There is one exception, the capital I with a dot, whose
form has a combining dot that is no letter.

* `inParts_of_coveredIn`, `find?_of_untouchedBy`: what the checks of a run say of each of its letters.
* `settled_lowercase`: all letters but that one.  `lowercase_dotted` is that one.
-/

namespace WikiPage.Unicode

/-- A letter or digit that is its own lower case form. -/
def IsSettled (c : Char) : Prop := isAlphanumeric c = true ∧ lowercase c = [c]

instance (c : Char) : Decidable (IsSettled c) := inferInstanceAs (Decidable (_ ∧ _))

/-- The combining dot above. -/
def combiningDot : Char := '\u0307'

/-! ## 1. Intervals in a table of ranges -/

/-- Whether one range of a table has a whole interval; the ranges before it have to end before. -/
def coveredBy (first last : Nat) : List (Nat × Nat) → Bool
  | [] => false
  | range :: rest =>
    Nat.ble range.1 first &&
      (Nat.ble last range.2 || Nat.blt range.2 first && coveredBy first last rest)

theorem inRanges_of_coveredBy {first last n : Nat} (hfirst : first ≤ n) (hlast : n ≤ last) :
    ∀ {ranges : List (Nat × Nat)}, coveredBy first last ranges = true → inRanges n ranges = true
  | range :: rest, h => by
    simp only [coveredBy, Bool.and_eq_true, Bool.or_eq_true, Nat.ble_eq] at h
    have hlow : ¬ n < range.1 := by omega
    rw [inRanges, if_neg hlow, Bool.or_eq_true, decide_eq_true_eq]
    rcases h.2 with hhigh | hrest
    · exact .inl (by omega)
    · exact .inr (inRanges_of_coveredBy hfirst hlast hrest.2)

/-- Whether the ranges begin at or before a code point. -/
def beginBy (n : Nat) : List (Nat × Nat) → Bool
  | [] => true
  | range :: _ => Nat.ble range.1 n

/-- The same for a table cut into parts; parts before the right one are not looked through. -/
def coveredIn (first last : Nat) : List (List (Nat × Nat)) → Bool
  | [] => false
  | part :: rest =>
    match rest with
    | [] => coveredBy first last part
    | next :: _ =>
      if beginBy first next then coveredIn first last rest else coveredBy first last part

theorem inParts_of_coveredIn {first last n : Nat} (hfirst : first ≤ n) (hlast : n ≤ last) :
    ∀ {parts : List (List (Nat × Nat))}, coveredIn first last parts = true → inParts n parts = true
  | part :: rest, h => by
    have hpart : coveredBy first last part = true → inParts n (part :: rest) = true := fun h => by
      rw [inParts, inRanges_of_coveredBy hfirst hlast h, Bool.true_or]
    unfold coveredIn at h
    split at h
    · exact hpart h
    · split at h
      · rw [inParts, inParts_of_coveredIn hfirst hlast h, Bool.or_true]
      · exact hpart h

/-! ## 2. Intervals that no run changes -/

/-- Whether runs in order leave an interval alone, or every other member of it. -/
def untouchedBy (first last : Nat) (spread : Bool) : List CaseRun → Bool
  | [] => true
  | run :: rest =>
    Nat.blt last run.first ||
      (Nat.blt run.last first ||
          spread && Nat.beq run.step 2 && Nat.beq ((first + run.first) % 2) 1) &&
        untouchedBy first last spread rest

theorem image?_of_untouchedBy {first last n : Nat} {spread : Bool} (hfirst : first ≤ n)
    (hlast : n ≤ last) (hspread : spread = true → (n - first) % 2 = 0) :
    ∀ {runs : List CaseRun}, untouchedBy first last spread runs = true → CaseRun.image? n runs = none
  | [], _ => rfl
  | run :: rest, h => by
    simp only [untouchedBy, Bool.or_eq_true, Bool.and_eq_true, Nat.blt_eq, Nat.beq_eq] at h
    rw [CaseRun.image?]
    split
    · rfl
    rename_i hn
    rcases h with h | ⟨h, hrest⟩
    · omega
    have ih := image?_of_untouchedBy hfirst hlast hspread hrest
    split
    · rename_i hin
      rcases h with h | ⟨⟨h, hstep⟩, hodd⟩
      · omega
      · have := hspread h
        rw [hstep, if_neg (by omega)]
    · exact ih

theorem find?_of_untouchedBy {first last n : Nat} {spread : Bool} (hfirst : first ≤ n)
    (hlast : n ≤ last) (hspread : spread = true → (n - first) % 2 = 0) :
    ∀ {parts : List (List CaseRun)}, (parts.all (untouchedBy first last spread)) = true →
      CaseRun.find? n parts = none
  | [], _ => rfl
  | part :: rest, h => by
    simp only [List.all_cons, Bool.and_eq_true] at h
    rw [CaseRun.find?, image?_of_untouchedBy hfirst hlast hspread h.1, Option.none_or]
    exact find?_of_untouchedBy hfirst hlast hspread h.2

/-! ## 3. The runs of the table -/

/-- What a run leads to: the members of an interval that lie as far apart as those of the run. -/
theorem image?_eq_some {n m : Nat} : ∀ {runs : List CaseRun}, CaseRun.image? n runs = some m →
    ∃ run ∈ runs, run.first ≤ n ∧ n ≤ run.last ∧ (n - run.first) % run.step = 0 ∧
      m = run.image + (n - run.first)
  | run :: rest, h => by
    rw [CaseRun.image?] at h
    split at h
    · cases h
    split at h
    · split at h
      · rename_i hn hlast hstep
        cases h
        exact ⟨run, List.mem_cons_self, Nat.not_lt.1 hn, hlast, hstep, rfl⟩
      · cases h
    · obtain ⟨run', hmem, hrun⟩ := image?_eq_some h
      exact ⟨run', List.mem_cons_of_mem _ hmem, hrun⟩

theorem find?_eq_some {n m : Nat} : ∀ {parts : List (List CaseRun)}, CaseRun.find? n parts = some m →
    ∃ part ∈ parts, CaseRun.image? n part = some m
  | part :: rest, h => by
    rw [CaseRun.find?, Option.or_eq_some_iff] at h
    rcases h with h | ⟨-, h⟩
    · exact ⟨part, List.mem_cons_self, h⟩
    · obtain ⟨part', hmem, hpart⟩ := find?_eq_some h
      exact ⟨part', List.mem_cons_of_mem _ hmem, hpart⟩

/-- Whether a run leads to letters that are settled: above the ASCII characters by the tables, and a
single ASCII letter by itself. -/
def CaseRun.leadsToSettled (run : CaseRun) : Bool :=
  let last := run.image + (run.last - run.first)
  if Nat.blt run.image 128 then
    Nat.beq run.first run.last && decide (IsSettled (Char.ofNat run.image))
  else
    (Nat.blt last 0x130 || Nat.blt 0x130 run.image) &&
    (Nat.blt last 0xD800 || Nat.blt 0xDFFF run.image && Nat.blt last 0x110000) &&
    coveredIn run.image last alphanumericRanges &&
    lowercaseRuns.all
      (untouchedBy run.image last (Nat.beq run.step 2 || Nat.beq run.first run.last))

theorem lowercaseRuns_leadToSettled :
    lowercaseRuns.all (fun part => part.all CaseRun.leadsToSettled) = true := by
  have h₁ : lowercaseRunsPart1.all CaseRun.leadsToSettled = true := by decide +kernel
  have h₂ : lowercaseRunsPart2.all CaseRun.leadsToSettled = true := by decide +kernel
  simp [lowercaseRuns, h₁, h₂]

/-! ## 4. Letters -/

section Letters

variable {c : Char}

theorem not_ascii (hc : 128 ≤ c.toNat) : ¬ c.val < 128 := fun h =>
  absurd (UInt32.lt_iff_toNat_lt.1 h) (Nat.not_lt.2 hc)

theorem isAlphanumeric_eq_inParts (hc : 128 ≤ c.toNat) :
    isAlphanumeric c = inParts c.toNat alphanumericRanges := if_neg (not_ascii hc)

theorem lowercase_of_find?_eq_none (hc : 128 ≤ c.toNat) (hdotted : c.toNat ≠ 0x130)
    (h : CaseRun.find? c.toNat lowercaseRuns = none) : lowercase c = [c] := by
  rw [lowercase, if_neg (not_ascii hc), if_neg hdotted, h]

/-- **Each letter of a run** that passes the check leads to a settled one. -/
theorem settled_image {run : CaseRun} (hrun : run.leadsToSettled = true) {n : Nat}
    (hfirst : run.first ≤ n) (hlast : n ≤ run.last) (hstep : (n - run.first) % run.step = 0) :
    IsSettled (Char.ofNat (run.image + (n - run.first))) := by
  unfold CaseRun.leadsToSettled at hrun
  split at hrun
  · simp only [Bool.and_eq_true, Nat.beq_eq, decide_eq_true_eq] at hrun
    rw [show n - run.first = 0 by omega]
    exact hrun.2
  rename_i hascii
  simp only [Bool.and_eq_true, Bool.or_eq_true, Nat.blt_eq] at hrun hascii
  obtain ⟨⟨⟨hdotted, hvalid⟩, hletters⟩, hruns⟩ := hrun
  have hchar : (run.image + (n - run.first)).isValidChar := by
    unfold Nat.isValidChar
    omega
  have hm : (Char.ofNat (run.image + (n - run.first))).toNat = run.image + (n - run.first) := by
    rw [Char.ofNat, dif_pos hchar]
    rfl
  have hhigh : 128 ≤ (Char.ofNat (run.image + (n - run.first))).toNat := by omega
  refine ⟨?_, lowercase_of_find?_eq_none hhigh (by omega) ?_⟩
  · rw [isAlphanumeric_eq_inParts hhigh, hm]
    exact inParts_of_coveredIn (by omega) (by omega) hletters
  · rw [hm]
    refine find?_of_untouchedBy (by omega) (by omega) (fun hspread => ?_) hruns
    simp only [Bool.or_eq_true, Nat.beq_eq] at hspread
    rcases hspread with h | h
    · rw [h] at hstep
      omega
    · omega

theorem settled_ascii (hc : c.toNat < 128) (h : isAlphanumeric c = true) :
    IsSettled c.toLower := by
  have hall : ∀ n < 128, isAlphanumeric (Char.ofNat n) = true → IsSettled (Char.ofNat n).toLower := by
    decide +kernel
  have := hall c.toNat hc
  rw [Char.ofNat_toNat] at this
  exact this h

/-- **The lower case form of a letter is a settled letter**, but for the capital I with a dot. -/
theorem settled_lowercase (h : isAlphanumeric c = true) (hdotted : c ≠ 'İ') :
    ∃ d, lowercase c = [d] ∧ IsSettled d := by
  by_cases hascii : c.toNat < 128
  · have hval : c.val < 128 := UInt32.lt_iff_toNat_lt.2 hascii
    exact ⟨c.toLower, if_pos hval, settled_ascii hascii h⟩
  have hhigh : 128 ≤ c.toNat := Nat.not_lt.1 hascii
  have hne : c.toNat ≠ 0x130 := fun heq => hdotted (Char.toNat_inj.1 heq)
  cases hfind : CaseRun.find? c.toNat lowercaseRuns with
  | none => exact ⟨c, lowercase_of_find?_eq_none hhigh hne hfind, h,
      lowercase_of_find?_eq_none hhigh hne hfind⟩
  | some m =>
    obtain ⟨part, hpart, himage⟩ := find?_eq_some hfind
    obtain ⟨run, hrun, hfirst, hlast, hstep, rfl⟩ := image?_eq_some himage
    have hleads := List.all_eq_true.1 (List.all_eq_true.1 lowercaseRuns_leadToSettled part hpart)
    refine ⟨_, ?_, settled_image (hleads run hrun) hfirst hlast hstep⟩
    rw [lowercase, if_neg (not_ascii hhigh), if_neg hne, hfind]

/-- The capital I with a dot has two characters for its lower case form. -/
theorem lowercase_dotted : lowercase 'İ' = ['i', combiningDot] := rfl

theorem settled_i : IsSettled 'i' := by decide

/-- The combining dot is no letter. -/
theorem isAlphanumeric_combiningDot : isAlphanumeric combiningDot = false := by decide +kernel

end Letters

end WikiPage.Unicode
