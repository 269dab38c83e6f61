import Mathlib.Data.List.TakeWhile
import Mathlib.Data.Rat.Cast.Order
import Mathlib.Order.Compare
import Mathlib.Tactic.FieldSimp
import Mathlib.Tactic.Linarith
import Mathlib.Tactic.Ring
import WikiPage.EngineVersion
/-!
# Versions as decimals

A version is written as a decimal with up to two places, and it is the number that this decimal stands
for.  Blanks around it do not matter, nor do zeros in front; a decimal that is too large for a version is
refused, and so is every other text.

* `Decimal` is a decimal as it is written, and `Decimal.value` its value as a rational number.
* `hundredths?_eq_some_iff`: reading takes a text apart as a decimal, and gives a hundred times its value.
* `exists_decimal_display`: a version is shown as a decimal.

Main statement: `parse_decimals`.
-/

namespace WikiPage

/-! ## 1. Decimals -/

/-- A decimal with up to two places, as it is written. -/
structure Decimal where
  whole : List Char
  /-- The places behind the point; without places there is no point. -/
  places : List Char
  whole_ne : whole ≠ []
  isDigit_whole : ∀ c ∈ whole, c.isDigit = true
  isDigit_places : ∀ c ∈ places, c.isDigit = true
  length_places : places.length ≤ 2

namespace Decimal

/-- The places with their point. -/
def fraction (d : Decimal) : List Char := if d.places = [] then [] else '.' :: d.places

/-- A decimal as it is written. -/
def text (d : Decimal) : List Char := d.whole ++ d.fraction

/-- The number that a decimal stands for. -/
def value (d : Decimal) : ℚ :=
  Nat.ofDigitChars 10 d.whole 0 + Nat.ofDigitChars 10 d.places 0 / 10 ^ d.places.length

/-- A hundred times the number that a decimal stands for. -/
def hundredths (d : Decimal) : Nat :=
  Nat.ofDigitChars 10 d.whole 0 * 100 + Nat.ofDigitChars 10 d.places 0 * 10 ^ (2 - d.places.length)

theorem hundredths_of_whole {d : Decimal} (h : d.places = []) :
    d.hundredths = Nat.ofDigitChars 10 d.whole 0 * 100 := by
  rw [hundredths, h, Nat.ofDigitChars_nil, Nat.zero_mul, Nat.add_zero]

theorem cast_hundredths (d : Decimal) : (d.hundredths : ℚ) = 100 * d.value := by
  have hpower : (10 : ℚ) ^ (2 - d.places.length) * 10 ^ d.places.length = 100 := by
    rw [← pow_add, Nat.sub_add_cancel d.length_places]
    norm_num
  have hne : (10 : ℚ) ^ d.places.length ≠ 0 := pow_ne_zero _ (by norm_num)
  have hplaces : (Nat.ofDigitChars 10 d.places 0 : ℚ) * 10 ^ (2 - d.places.length) =
      100 * (Nat.ofDigitChars 10 d.places 0 / 10 ^ d.places.length) := by
    rw [← hpower]
    field_simp
  rw [hundredths, value, mul_add, ← hplaces]
  push_cast
  ring

theorem isBlank_of_isDigit {c : Char} (h : c.isDigit = true) : Unicode.isBlank c = false := by
  have hrange : 48 ≤ c.toNat ∧ c.toNat ≤ 57 := by
    rw [Char.isDigit, Bool.and_eq_true, decide_eq_true_eq, decide_eq_true_eq] at h
    exact h
  unfold Unicode.isBlank
  grind

theorem mem_text {d : Decimal} {c : Char} (h : c ∈ d.text) : c.isDigit = true ∨ c = '.' := by
  rw [text, fraction, List.mem_append] at h
  rcases h with h | h
  · exact .inl (d.isDigit_whole c h)
  · split at h
    · cases h
    · rcases List.mem_cons.1 h with rfl | h
      · exact .inr rfl
      · exact .inl (d.isDigit_places c h)

/-- No blanks stand around a decimal. -/
theorem trim_text (d : Decimal) : Text.trim d.text = d.text := by
  have hblank : ∀ c ∈ d.text, Unicode.isBlank c = false := fun c hc => by
    rcases mem_text hc with hdigit | rfl
    · exact isBlank_of_isDigit hdigit
    · rfl
  have hstart (s : List Char) (h : ∀ c ∈ s, Unicode.isBlank c = false) : Text.trimStart s = s :=
    Text.trimStart_eq_self fun c hc => h c (List.mem_of_mem_head? hc)
  rw [Text.trim, Text.trimEnd, hstart _ hblank,
    hstart _ fun c hc => hblank c (List.mem_reverse.1 hc), List.reverse_reverse]

end Decimal

/-! ## 2. Reading -/

namespace EngineVersion

theorem digitsValue_eq (ds : List Char) : digitsValue ds = Nat.ofDigitChars 10 ds 0 := by
  rw [digitsValue, Nat.ofDigitChars_eq_foldl]
  congr 1
  funext n c
  rw [digitValue, Nat.mul_comm]

theorem isNumeral_iff {ds : List Char} :
    isNumeral ds = true ↔ ds ≠ [] ∧ ∀ c ∈ ds, c.isDigit = true := by
  rw [isNumeral, Bool.and_eq_true, Bool.not_eq_true', List.isEmpty_eq_false_iff, List.all_eq_true]

theorem ne_point {ds : List Char} (h : '.' ∉ ds) : ∀ c ∈ ds, (c != '.') = true := fun _ hc =>
  bne_iff_ne.2 fun heq => h (heq ▸ hc)

/-- Without a point a text is read as a whole number. -/
theorem hundredths?_whole {whole : List Char} (h : '.' ∉ whole) {n : Nat} :
    hundredths? whole = some n ↔
      isNumeral whole = true ∧ n = Nat.ofDigitChars 10 whole 0 * 100 := by
  have hzero : isNumeral ['0'] = true ∧ digitValue '0' * 10 = 0 := by decide
  simp only [hundredths?, List.takeWhile_eq_self_iff.2 (ne_point h),
    List.dropWhile_eq_nil_iff.2 (ne_point h), hzero, Bool.and_true, digitsValue_eq, Nat.add_zero,
    Option.ite_none_right_eq_some, Option.some.injEq, eq_comm (b := n)]

/-- With a point, it may have one place behind it or two. -/
theorem hundredths?_point {whole places : List Char} (h : '.' ∉ whole) {n : Nat} :
    hundredths? (whole ++ '.' :: places) = some n ↔
      isNumeral whole = true ∧ isNumeral places = true ∧ places.length ≤ 2 ∧
        n = Nat.ofDigitChars 10 whole 0 * 100 +
          Nat.ofDigitChars 10 places 0 * 10 ^ (2 - places.length) := by
  have htake : (whole ++ '.' :: places).takeWhile (· != '.') = whole := by
    rw [List.takeWhile_append_of_pos (ne_point h), List.takeWhile_cons_of_neg (by decide),
      List.append_nil]
  have hdrop : (whole ++ '.' :: places).dropWhile (· != '.') = '.' :: places := by
    rw [List.dropWhile_append_of_pos (ne_point h), List.dropWhile_cons_of_neg (by decide)]
  simp only [hundredths?, htake, hdrop, digitsValue_eq, Option.ite_none_right_eq_some,
    Bool.and_eq_true, and_assoc]
  refine and_congr_right fun _ => and_congr_right fun hplaces => ?_
  rcases places with _ | ⟨a, _ | ⟨b, _ | ⟨c, rest⟩⟩⟩
  · cases hplaces
  · simp [Nat.ofDigitChars_cons, digitValue, eq_comm (b := n)]
  · have htwo : digitValue a * 10 + digitValue b = Nat.ofDigitChars 10 [a, b] 0 := by
      simp [Nat.ofDigitChars_cons, digitValue, Nat.mul_comm]
    simp [← htwo, Nat.add_assoc, eq_comm (b := n)]
  · simp

/-- **Reading takes a text apart as a decimal.** -/
theorem hundredths?_eq_some_iff {text : List Char} {n : Nat} :
    hundredths? text = some n ↔ ∃ d : Decimal, text = d.text ∧ n = d.hundredths := by
  constructor
  · intro h
    by_cases hpoint : '.' ∈ text
    · obtain ⟨whole, places, rfl, hnot⟩ := List.eq_append_cons_of_mem hpoint
      obtain ⟨hwhole, hplaces, hlength, hn⟩ := (hundredths?_point hnot).1 h
      obtain ⟨hne, hwhole⟩ := isNumeral_iff.1 hwhole
      obtain ⟨hne', hplaces⟩ := isNumeral_iff.1 hplaces
      refine ⟨⟨whole, places, hne, hwhole, hplaces, hlength⟩, ?_, hn⟩
      rw [Decimal.text, Decimal.fraction, if_neg hne']
    · obtain ⟨hwhole, hn⟩ := (hundredths?_whole hpoint).1 h
      obtain ⟨hne, hwhole⟩ := isNumeral_iff.1 hwhole
      refine ⟨⟨text, [], hne, hwhole, fun _ h => absurd h List.not_mem_nil, by decide⟩,
        (List.append_nil text).symm, ?_⟩
      rw [Decimal.hundredths_of_whole rfl]
      exact hn
  · rintro ⟨d, rfl, rfl⟩
    have hnot : '.' ∉ d.whole := fun h => absurd (d.isDigit_whole '.' h) (by decide)
    have hwhole := isNumeral_iff.2 ⟨d.whole_ne, d.isDigit_whole⟩
    rw [Decimal.text, Decimal.fraction]
    split
    · rename_i hnil
      rw [List.append_nil]
      exact (hundredths?_whole hnot).2 ⟨hwhole, Decimal.hundredths_of_whole hnil⟩
    · rename_i hne
      refine (hundredths?_point hnot).2
        ⟨hwhole, isNumeral_iff.2 ⟨hne, d.isDigit_places⟩, d.length_places, ?_⟩
      rw [Decimal.hundredths]

theorem ofHundredths?_eq_some_iff {n : Nat} {v : EngineVersion} :
    ofHundredths? n = some v ↔ v.hundredths = n := by
  rw [ofHundredths?]
  split
  · constructor
    · rintro ⟨⟩
      rfl
    · rintro rfl
      rfl
  · rename_i hlarge
    constructor
    · rintro ⟨⟩
    · rintro rfl
      exact absurd v.small hlarge

/-- **A text is read as the decimal that it is without blanks around it.** -/
theorem parse_eq_ok_iff {s : String} {v : EngineVersion} :
    parse s = .ok v ↔ ∃ d : Decimal, Text.trim s.toList = d.text ∧ v.hundredths = d.hundredths := by
  have hread : (hundredths? (Text.trim s.toList)).bind ofHundredths? = some v ↔
      hundredths? (Text.trim s.toList) = some v.hundredths := by
    simp only [Option.bind_eq_some_iff, ofHundredths?_eq_some_iff, exists_eq_right']
  rw [← hundredths?_eq_some_iff, ← hread, parse]
  split
  · rename_i w hw
    rw [hw, Except.ok.injEq, Option.some.injEq]
  · rename_i hnone
    simp [hnone]

/-! ## 3. Showing -/

/-- The places that hundredths are shown with. -/
def placesOf (minor : Nat) : List Char :=
  if minor = 0 then []
  else if minor % 10 = 0 then [Nat.digitChar (minor / 10)]
  else [Nat.digitChar (minor / 10), Nat.digitChar (minor % 10)]

theorem toList_display (v : EngineVersion) :
    v.display.toList = Nat.toDigits 10 (v.hundredths / 100) ++
      if placesOf (v.hundredths % 100) = [] then [] else '.' :: placesOf (v.hundredths % 100) := by
  have hlt : v.hundredths % 100 < 100 := Nat.mod_lt _ (by decide)
  have htens : v.hundredths % 100 / 10 < 10 := by omega
  unfold display placesOf
  dsimp only
  generalize v.hundredths / 100 = major at *
  generalize v.hundredths % 100 = minor at *
  split
  · simp [Nat.toString_eq_repr, Nat.toList_repr]
  split
  · simp [Nat.toString_eq_repr, Nat.toList_repr, Nat.toDigits_of_lt_base htens]
  split
  · rename_i hsmall
    simp [Nat.toString_eq_repr, Nat.toList_repr, Nat.toDigits_of_lt_base hsmall,
      Nat.div_eq_of_lt hsmall, Nat.mod_eq_of_lt hsmall]
  · rename_i hlarge
    simp [Nat.toString_eq_repr, Nat.toList_repr,
      Nat.toDigits_of_base_le (by decide) (Nat.le_of_not_lt hlarge), Nat.toDigits_of_lt_base htens]

theorem placesOf_spec {minor : Nat} (h : minor < 100) :
    (∀ c ∈ placesOf minor, c.isDigit = true) ∧ (placesOf minor).length ≤ 2 ∧
      Nat.ofDigitChars 10 (placesOf minor) 0 * 10 ^ (2 - (placesOf minor).length) = minor := by
  have htens : minor / 10 < 10 := by omega
  have hones : minor % 10 < 10 := Nat.mod_lt _ (by decide)
  have hdigit {n : Nat} (hn : n < 10) : (Nat.digitChar n).isDigit = true := by
    rw [Nat.isDigit_digitChar, decide_eq_true hn]
  unfold placesOf
  split
  · rename_i hzero
    exact ⟨fun _ h => absurd h List.not_mem_nil, by decide, by simp [hzero]⟩
  split
  · refine ⟨List.forall_mem_singleton.2 (hdigit htens), Nat.le_succ 1, ?_⟩
    rw [Nat.ofDigitChars_cons_digitChar_of_lt_ten htens, Nat.ofDigitChars_nil]
    simp only [List.length_singleton]
    omega
  · refine ⟨List.forall_mem_cons.2 ⟨hdigit htens, List.forall_mem_singleton.2 (hdigit hones)⟩,
      le_refl 2, ?_⟩
    rw [Nat.ofDigitChars_cons_digitChar_of_lt_ten htens,
      Nat.ofDigitChars_cons_digitChar_of_lt_ten hones, Nat.ofDigitChars_nil]
    simp only [List.length_cons, List.length_nil]
    omega

/-- **A version is shown as a decimal**, with as many places as it needs. -/
theorem exists_decimal_display (v : EngineVersion) :
    ∃ d : Decimal, v.display.toList = d.text ∧ d.hundredths = v.hundredths := by
  obtain ⟨hdigits, hlength, hvalue⟩ :=
    placesOf_spec (Nat.mod_lt v.hundredths (by decide : 100 > 0))
  refine ⟨⟨Nat.toDigits 10 (v.hundredths / 100), placesOf (v.hundredths % 100),
    Nat.toDigits_ne_nil, fun c hc => Nat.isDigit_of_mem_toDigits (by decide) (by decide) hc,
    hdigits, hlength⟩, toList_display v, ?_⟩
  rw [Decimal.hundredths, hvalue, Nat.ofDigitChars_ten_toDigits]
  exact Nat.div_add_mod' v.hundredths 100

/-- **What is shown is read back.** -/
theorem parse_display (v : EngineVersion) : parse v.display = .ok v := by
  obtain ⟨d, htext, hvalue⟩ := exists_decimal_display v
  exact parse_eq_ok_iff.2 ⟨d, by rw [htext, d.trim_text], hvalue.symm⟩

/-! ## 4. Numbers -/

/-- **Versions are decimals**: a text is read as a version exactly when it is a decimal with up to two
places, blanks around it apart, and a hundred times its value fits in 32 bits; the version has that many
hundredths.  So two versions are in the order of the decimals that they are read from, and every version
is read back from what it is shown as. -/
theorem parse_decimals :
    (∀ s v, parse s = .ok v ↔ ∃ d : Decimal,
      Text.trim s.toList = d.text ∧ (v.hundredths : ℚ) = 100 * d.value) ∧
    (∀ s, (∃ v, parse s = .ok v) ↔ ∃ d : Decimal,
      Text.trim s.toList = d.text ∧ 100 * d.value < 2 ^ 32) ∧
    (∀ s t v w (d e : Decimal), parse s = .ok v → parse t = .ok w →
      Text.trim s.toList = d.text → Text.trim t.toList = e.text →
      v.compare w = cmp d.value e.value) ∧
    ∀ v, parse (display v) = .ok v := by
  have hcast {n : Nat} {d : Decimal} : (n : ℚ) = 100 * d.value ↔ n = d.hundredths := by
    rw [← d.cast_hundredths, Nat.cast_inj]
  refine ⟨fun s v => ?_, fun s => ?_, ?_, parse_display⟩
  · simp only [hcast, parse_eq_ok_iff]
  · have hsmall (d : Decimal) : 100 * d.value < 2 ^ 32 ↔ d.hundredths < 4294967296 := by
      rw [← d.cast_hundredths]
      norm_cast
    simp only [hsmall, parse_eq_ok_iff]
    constructor
    · rintro ⟨v, d, htext, hv⟩
      exact ⟨d, htext, hv ▸ v.small⟩
    · rintro ⟨d, htext, hd⟩
      exact ⟨⟨d.hundredths, hd⟩, d, htext, rfl⟩
  · intro s t v w d e hs ht hd he
    have hvalue {s v} {d : Decimal} (hs : parse s = .ok v) (hd : Text.trim s.toList = d.text) :
        (v.hundredths : ℚ) = 100 * d.value := by
      obtain ⟨d', hd', hv⟩ := parse_eq_ok_iff.1 hs
      have hread := hundredths?_eq_some_iff.2 ⟨d, hd, rfl⟩
      rw [hundredths?_eq_some_iff.2 ⟨d', hd', rfl⟩, ← hv] at hread
      exact hcast.2 (Option.some.inj hread)
    rw [← cmp_mul_pos_left (by norm_num : (0 : ℚ) < 100), ← hvalue hs hd, ← hvalue ht he,
      Nat.strictMono_cast.cmp_map_eq, cmp_eq_compare]
    rfl

/-- 4.09 is before 4.1, which is 4.10; the largest version is read, with a zero in front too, and
nothing above it is. -/
theorem parse_decimals_places :
    (∃ v w, parse " 4.09" = .ok v ∧ parse "4.1" = .ok w ∧ v.compare w = .lt) ∧
      (∃ v, parse "042949672.95" = .ok v) ∧ ∀ v, parse "42949672.96" ≠ .ok v := by
  obtain ⟨hread, hsmall, hcompare, -⟩ := parse_decimals
  have hnine : parse " 4.09" = .ok ⟨409, by decide⟩ := by decide +kernel
  have hten : parse "4.1" = .ok ⟨410, by decide⟩ := by decide +kernel
  have hlarge : parse "42949672.96" = .error ⟨"42949672.96"⟩ := by decide +kernel
  refine ⟨⟨_, _, hnine, hten, ?_⟩, ?_, fun v hv => ?_⟩
  · obtain ⟨d, hd, hd'⟩ := (hread _ _).1 hnine
    obtain ⟨e, he, he'⟩ := (hread _ _).1 hten
    have hlt : d.value < e.value := by
      norm_num at hd' he'
      linarith
    rw [hcompare _ _ _ _ d e hnine hten hd he, (cmp_eq_lt_iff _ _).2 hlt]
  · exact (hsmall _).2 ⟨⟨"042949672".toList, ['9', '5'], by decide, by simp, by simp, by decide⟩,
      by decide +kernel, by decide +kernel⟩
  · cases hlarge.symm.trans hv

end EngineVersion

end WikiPage
