import WikiPage.Proofs.LinkedMarkers
import WikiPage.Proofs.PlainLines
/-!
# Markers as they are written

An opening marker is written as a tag and parameters, with blanks between them and perhaps around
them.  A parameter is a name, alone or with a value in quotation marks, and the value may hold
anything else: blanks, braces, equals signs.  What is read from the marker is what was written, and of
the values of one name the last.

* `trim_append`, `ofText_append`: the blanks around a marker go, the first one in it ends the tag.
* `WrittenParam.run_word`: how one parameter is read, whatever is written behind it.
* `scanParams_written`: the parameters are read one by one.
* `get?_parse`: the map of parameters has the last value of each name.
* `recognize?_written`: the whole marker.
-/

namespace WikiPage.Shortcode

/-! ## 1. Blanks -/

theorem isBlank_of_isNameChar {c : Char} (h : isNameChar c = true) : Unicode.isBlank c = false := by
  refine (Markdown.plain_of_isPlain ?_).blank
  simp only [isNameChar, Bool.or_eq_true, beq_iff_eq, or_assoc] at h
  rcases h with h | rfl | rfl
  · simp [Markdown.isPlain, h]
  · rfl
  · rfl

theorem isNameChar_of_isBlank {c : Char} (h : Unicode.isBlank c = true) : isNameChar c = false := by
  cases hname : isNameChar c with
  | false => rfl
  | true => exact absurd h (by simp [isBlank_of_isNameChar hname])

/-- Blanks on both sides of what begins and ends without one are removed. -/
theorem trim_append {lead core trail : List Char} (hlead : ∀ c ∈ lead, Unicode.isBlank c = true)
    (htrail : ∀ c ∈ trail, Unicode.isBlank c = true) (hne : core ≠ [])
    (hfirst : ∀ c ∈ core.head?, Unicode.isBlank c = false)
    (hlast : ∀ c ∈ core.getLast?, Unicode.isBlank c = false) :
    Text.trim (lead ++ core ++ trail) = core := by
  have hstart : Text.trimStart (lead ++ core ++ trail) = core ++ trail := by
    rw [List.append_assoc, Text.trimStart, List.dropWhile_append_of_pos hlead]
    obtain ⟨first, more, rfl⟩ := List.exists_cons_of_ne_nil hne
    exact Text.trimStart_eq_self hfirst
  have hend : Text.trimStart (core ++ trail).reverse = core.reverse := by
    rw [List.reverse_append, Text.trimStart,
      List.dropWhile_append_of_pos fun c hc => htrail c (List.mem_reverse.1 hc)]
    exact Text.trimStart_eq_self (by rwa [List.head?_reverse])
  rw [Text.trim, hstart, Text.trimEnd, hend, List.reverse_reverse]

/-- What stands between braces. -/
theorem betweenBraces?_braced (text : List Char) :
    betweenBraces? (braced (String.ofList text)).toList = some (Text.trim text) := by
  simp [betweenBraces?, braced, withoutStart?]

/-- Whether a list is empty or begins with a blank. -/
def EndsWord (rest : List Char) : Prop := ∀ c ∈ rest.head?, Unicode.isBlank c = true

/-- The tag is what stands before the first blank. -/
theorem ofText_append {tag rest : List Char} (htag : ∀ c ∈ tag, Unicode.isBlank c = false)
    (hrest : EndsWord rest) :
    Opening.ofText (tag ++ rest) = ⟨String.ofList tag, String.ofList (rest.drop 1)⟩ := by
  have htag' : ∀ c ∈ tag, (!Unicode.isBlank c) = true := fun c hc => by rw [htag c hc]; rfl
  rw [Opening.ofText, List.takeWhile_append_of_pos htag', List.dropWhile_append_of_pos htag']
  cases rest with
  | nil => simp
  | cons c rest => simp [hrest c rfl]

/-! ## 2. Parameters -/

/-- A parameter as it is written: blanks, a name, and perhaps a value between quotation marks. -/
structure WrittenParam where
  blanks : List Char
  name : String
  value : Option String
  apart : blanks ≠ [] := by decide +kernel
  blank : blanks.all Unicode.isBlank = true := by decide +kernel
  named : name ≠ "" := by decide +kernel
  spelled : name.toList.all isNameChar = true := by decide +kernel
  unquoted : ∀ v ∈ value, '"' ∉ v.toList := by decide +kernel

namespace WrittenParam

theorem isBlank (p : WrittenParam) : ∀ c ∈ p.blanks, Unicode.isBlank c = true :=
  List.all_eq_true.1 p.blank

theorem isName (p : WrittenParam) : ∀ c ∈ p.name.toList, isNameChar c = true :=
  List.all_eq_true.1 p.spelled

/-- A parameter without the blanks before it. -/
def word (p : WrittenParam) : List Char :=
  p.name.toList ++
    match p.value with
    | none => []
    | some v => '=' :: '"' :: (v.toList ++ ['"'])

/-- A parameter with the blanks before it. -/
def source (p : WrittenParam) : List Char := p.blanks ++ p.word

/-- The value that is meant: a name alone is a flag, and so is one with nothing between its quotation
marks. -/
def meant (p : WrittenParam) : ParamValue :=
  match p.value with
  | none => .flag
  | some v => if v = "" then .flag else .text v

end WrittenParam

namespace ParamScan

variable {rest : List Char}

/-- Blanks before a parameter are passed over. -/
theorem run_blanks : ∀ {blanks : List Char}, (∀ c ∈ blanks, Unicode.isBlank c = true) →
    outside.run (blanks ++ rest) = outside.run rest
  | [], _ => rfl
  | c :: blanks, h => by
    have hc := isNameChar_of_isBlank (h c List.mem_cons_self)
    have ih := @run_blanks blanks fun c' hc' => h c' (List.mem_cons_of_mem _ hc')
    simp [run, step, begin, hc, ih]

/-- So the one that ends a word may be left out. -/
theorem run_drop_one (h : EndsWord rest) : outside.run (rest.drop 1) = outside.run rest := by
  cases rest with
  | nil => rfl
  | cons c rest =>
    have hblank : ∀ c' ∈ [c], Unicode.isBlank c' = true := fun c' hc' =>
      List.mem_singleton.1 hc' ▸ h c rfl
    exact (run_blanks hblank).symm

theorem run_name : ∀ {chars : List Char}, (∀ c ∈ chars, isNameChar c = true) →
    ∀ held : List Char, (name held).run (chars ++ rest) = (name (chars.reverse ++ held)).run rest
  | [], _, _ => rfl
  | c :: chars, h, held => by
    have hc := h c List.mem_cons_self
    have ih := @run_name chars (fun c' hc' => h c' (List.mem_cons_of_mem _ hc')) (c :: held)
    simp [run, step, hc, ih]

/-- A name is read as a whole. -/
theorem run_outside_name {chars : List Char} (hne : chars ≠ [])
    (h : ∀ c ∈ chars, isNameChar c = true) :
    outside.run (chars ++ rest) = (name chars.reverse).run rest := by
  cases chars with
  | nil => exact absurd rfl hne
  | cons c chars =>
    have hc := h c List.mem_cons_self
    have := @run_name rest chars (fun c' hc' => h c' (List.mem_cons_of_mem _ hc')) [c]
    simp [run, step, begin, hc, this]

/-- A name that a blank follows, or nothing, is a flag. -/
theorem run_flag (h : EndsWord rest) (held : List Char) :
    (name held).run rest = flag held :: outside.run rest := by
  cases rest with
  | nil => rfl
  | cons c rest =>
    have hblank : Unicode.isBlank c = true := h c rfl
    have hname := isNameChar_of_isBlank hblank
    have hequals : c ≠ '=' := by
      rintro rfl
      revert hblank
      decide
    simp [run, step, begin, hname, hequals]

/-- A value is read up to the next quotation mark. -/
theorem run_value : ∀ {chars : List Char}, '"' ∉ chars → ∀ named held : List Char,
    (value named held).run (chars ++ '"' :: rest) =
      (String.ofList named.reverse, quotedValue (held.reverse ++ chars)) :: outside.run rest
  | [], _, _, _ => by simp [run, step]
  | c :: chars, h, named, held => by
    have hc : c ≠ '"' := fun hc => h (hc ▸ List.mem_cons_self)
    have ih := @run_value chars (fun hmem => h (List.mem_cons_of_mem _ hmem)) named (c :: held)
    simp [run, step, hc, ih]

end ParamScan

theorem quotedValue_toList (v : String) :
    quotedValue v.toList = if v = "" then .flag else .text v := by
  simp [quotedValue]

namespace WrittenParam

theorem endsWord_sources : ∀ params : List WrittenParam, EndsWord (params.flatMap source)
  | [] => fun c hc => by cases hc
  | p :: params => by
    obtain ⟨blank, blanks, hblanks⟩ := List.exists_cons_of_ne_nil p.apart
    intro c hc
    rw [List.flatMap_cons, source, hblanks] at hc
    obtain rfl : blank = c := by simpa using hc
    exact p.isBlank blank (hblanks ▸ List.mem_cons_self)

/-- **A written parameter is read**, whatever parameters follow. -/
theorem run_word (p : WrittenParam) {rest : List Char} (hrest : EndsWord rest) :
    ParamScan.outside.run (p.word ++ rest) =
      (p.name, p.meant) :: ParamScan.outside.run rest := by
  have hne : p.name.toList ≠ [] := fun h => p.named (String.toList_eq_nil_iff.1 h)
  rw [word, List.append_assoc, ParamScan.run_outside_name hne p.isName, meant]
  cases hvalue : p.value with
  | none => simpa [ParamScan.flag] using ParamScan.run_flag hrest p.name.toList.reverse
  | some v =>
    have hequals : isNameChar '=' = false := by decide
    have hvalue := @ParamScan.run_value rest v.toList (p.unquoted v hvalue)
      p.name.toList.reverse []
    simpa [ParamScan.run, ParamScan.step, hequals, quotedValue_toList] using hvalue

/-- Parameters in a row are read one by one. -/
theorem run_sources : ∀ params : List WrittenParam,
    ParamScan.outside.run (params.flatMap source) = params.map fun p => (p.name, p.meant)
  | [] => rfl
  | p :: params => by
    rw [List.flatMap_cons, source, List.append_assoc, ParamScan.run_blanks p.isBlank,
      p.run_word (endsWord_sources params), run_sources params, List.map_cons]

end WrittenParam

/-- **What is read is what was written**, without the blank that ends the tag. -/
theorem scanParams_written (params : List WrittenParam) :
    scanParams ((params.flatMap WrittenParam.source).drop 1) =
      params.map fun p => (p.name, p.meant) := by
  rw [scanParams, ParamScan.run_drop_one (WrittenParam.endsWord_sources params),
    WrittenParam.run_sources]

/-- When entries are put into a map one after the other, the last one of a name is found. -/
theorem get?_foldl_insert {α : Type} (key : String) : ∀ (entries : List (String × α))
    (map : NameMap α), (entries.foldl (fun map (name, value) => map.insert name value) map).get? key =
      ((entries.reverse.find? (·.1 == key)).map Prod.snd).or (map.get? key)
  | [], _ => rfl
  | (name, value) :: entries, map => by
    rw [List.foldl_cons, get?_foldl_insert key entries, NameMap.get?_insert, List.reverse_cons,
      List.find?_append]
    by_cases h : name = key
    · cases hlater : entries.reverse.find? (·.1 == key) <;> simp [h]
    · have h' : ¬ key = name := fun heq => h heq.symm
      cases hlater : entries.reverse.find? (·.1 == key) <;> simp [h, h']

/-- The parameters of a text: of each name the last value. -/
theorem get?_parse (params : String) (key : String) :
    (Params.parse params).get? key =
      ((scanParams params.toList).reverse.find? (·.1 == key)).map Prod.snd := by
  rw [Params.parse, get?_foldl_insert]
  exact Option.or_none

/-! ## 3. Markers -/

/-- What stands in a marker, without blanks around it: a tag and parameters. -/
def markerCore (tag : String) (params : List WrittenParam) : List Char :=
  tag.toList ++ params.flatMap WrittenParam.source

/-- The text of a marker: braces, and perhaps blanks inside them. -/
def markerSource (lead : List Char) (tag : String) (params : List WrittenParam)
    (trail : List Char) : String :=
  braced (String.ofList (lead ++ markerCore tag params ++ trail))

section Tags

variable {r : Registry} {s : Shortcode} {lead trail : List Char}

/-- A parameter ends without a blank. -/
theorem WrittenParam.getLast?_word (p : WrittenParam) :
    p.word ≠ [] ∧ ∀ c ∈ p.word.getLast?, Unicode.isBlank c = false := by
  have hne : p.name.toList ≠ [] := fun h => p.named (String.toList_eq_nil_iff.1 h)
  refine ⟨List.append_ne_nil_of_left_ne_nil hne _, fun c hc => ?_⟩
  rw [word] at hc
  cases hvalue : p.value with
  | none =>
    simp only [hvalue, List.append_nil] at hc
    exact isBlank_of_isNameChar (p.isName c (List.mem_of_getLast? hc))
  | some v =>
    simp only [hvalue, ← List.cons_append, ← List.append_assoc, List.getLast?_concat] at hc
    cases hc
    decide

/-- So does what ends so, with parameters behind it. -/
theorem getLast?_append_sources : ∀ (params : List WrittenParam) {start : List Char},
    (∀ c ∈ start.getLast?, Unicode.isBlank c = false) →
      ∀ c ∈ (start ++ params.flatMap WrittenParam.source).getLast?, Unicode.isBlank c = false
  | [], start, h => by simpa using h
  | p :: params, start, h => by
    obtain ⟨hne, hlast⟩ := p.getLast?_word
    rw [List.flatMap_cons, ← List.append_assoc]
    refine getLast?_append_sources params fun c hc => hlast c ?_
    rwa [WrittenParam.source, ← List.append_assoc, List.getLast?_append,
      List.getLast?_eq_some_getLast hne, Option.some_or, ← List.getLast?_eq_some_getLast hne] at hc

/-- What a paragraph with a registered tag in it holds as a marker. -/
theorem markerText?_written (hs : s ∈ r.shortcodes) (hlead : lead.all Unicode.isBlank = true)
    (htrail : trail.all Unicode.isBlank = true) (params : List WrittenParam) (inner : List Node)
    (textSpan span : Option Span) :
    markerText?
        ⟨.paragraph, [⟨.text (markerSource lead s.name params trail), inner, textSpan⟩], span⟩ =
      some (markerCore s.name params) := by
  obtain ⟨hne, hname⟩ := Registry.isName_of_mem hs
  obtain ⟨first, more, htag⟩ := List.exists_cons_of_ne_nil hne
  rw [Links.markerText?_paragraph]
  refine (betweenBraces?_braced _).trans (congrArg some
    (trim_append (List.all_eq_true.1 hlead) (List.all_eq_true.1 htrail) ?_ ?_ ?_))
  · exact List.append_ne_nil_of_left_ne_nil hne _
  · intro c hc
    rw [markerCore, htag] at hc
    obtain rfl : first = c := Option.some.inj hc
    exact isBlank_of_isNameChar (hname first (htag ▸ List.mem_cons_self))
  · exact getLast?_append_sources params fun c hc =>
      isBlank_of_isNameChar (hname c (List.mem_of_getLast? hc))

/-- It opens the tag, and what is left behind the tag are the parameters. -/
theorem opening?_written (hs : s ∈ r.shortcodes) (hlead : lead.all Unicode.isBlank = true)
    (htrail : trail.all Unicode.isBlank = true) (params : List WrittenParam) (inner : List Node)
    (textSpan span : Option Span) :
    opening?
        ⟨.paragraph, [⟨.text (markerSource lead s.name params trail), inner, textSpan⟩], span⟩ =
      some ⟨s.name, String.ofList ((params.flatMap WrittenParam.source).drop 1)⟩ := by
  obtain ⟨hne, hname⟩ := Registry.isName_of_mem hs
  obtain ⟨first, more, htag⟩ := List.exists_cons_of_ne_nil hne
  have hfirst : first ≠ '/' := by
    rintro rfl
    exact absurd (hname '/' (htag ▸ List.mem_cons_self)) (by decide)
  have hopening := ofText_append (fun c hc => isBlank_of_isNameChar (hname c hc))
    (WrittenParam.endsWord_sources params)
  rw [String.ofList_toList] at hopening
  rw [opening?, markerText?_written hs hlead htrail, ← hopening, markerCore, htag]
  -- a tag begins with no slash, so this is not taken for a closing marker
  split
  · rename_i h
    cases h
  · rename_i h
    exact absurd (List.cons.inj (Option.some.inj h)).1 hfirst
  · rename_i h
    rw [← Option.some.inj h]

/-- **A marker is read as it was written**: whatever blanks stand in it, it opens the shortcode with its
tag, and of the values that its parameters give to a name the last one is kept. -/
theorem recognize?_written (hs : s ∈ r.shortcodes) (hlead : lead.all Unicode.isBlank = true)
    (htrail : trail.all Unicode.isBlank = true) (params : List WrittenParam) (inner : List Node)
    (textSpan span : Option Span) :
    ∃ read : Params,
      r.recognize?
          ⟨.paragraph, [⟨.text (markerSource lead s.name params trail), inner, textSpan⟩], span⟩ =
        some ⟨s, read⟩ ∧
      ∀ key, read.get? key = (params.reverse.find? (·.name == key)).map WrittenParam.meant := by
  refine ⟨.parse (String.ofList ((params.flatMap WrittenParam.source).drop 1)), ?_, fun key => ?_⟩
  · rw [Registry.recognize?, opening?_written hs hlead htrail]
    exact congrArg (Option.map _) (Registry.get?_of_mem hs)
  · rw [get?_parse, String.toList_ofList, scanParams_written, ← List.map_reverse, List.find?_map,
      Option.map_map]
    rfl

end Tags

/-- A bound that is given twice, the second time without a value, and a value that looks like the end
of a marker and the start of another one. -/
def crowdedParams : List WrittenParam :=
  [{ blanks := ['\t', '\u00A0'], name := "gte", value := some "5.0" },
    { blanks := [' '], name := "why", value := some "\x7d\x7d \x7b\x7b/a='b' é" },
    { blanks := ['\n', ' '], name := "gte", value := none }]

/-- The later one of the two bounds is read, and the other value as it stands. -/
theorem recognize?_crowdedParams : ∃ read : Params,
    Registry.standard.recognize?
        ⟨.paragraph, [⟨.text (markerSource [' '] "version" crowdedParams ['\n', '\t']), [], none⟩],
          none⟩ = some ⟨versionGate, read⟩ ∧
      read.get? "gte" = some .flag ∧
      read.get? "why" = some (.text "\x7d\x7d \x7b\x7b/a='b' é") ∧ read.get? "lt" = none := by
  have hmem : versionGate ∈ Registry.standard.shortcodes :=
    List.mem_append_right _ (List.mem_cons_of_mem _ List.mem_cons_self)
  have hlead : [' '].all Unicode.isBlank = true := by decide +kernel
  have htrail : ['\n', '\t'].all Unicode.isBlank = true := by decide +kernel
  obtain ⟨read, hread, hget⟩ :=
    recognize?_written hmem hlead htrail crowdedParams [] none none
  exact ⟨read, hread, (hget _).trans (by decide +kernel), (hget _).trans (by decide +kernel),
    (hget _).trans (by decide +kernel)⟩

end WikiPage.Shortcode
