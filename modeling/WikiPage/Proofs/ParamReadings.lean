import WikiPage.Proofs.WrittenMarkers
/-!
# Parameters read part by part

What stands behind the tag of a marker may be any text.  It is read in parts: a character that begins
nothing is passed over, a name is taken as long as it goes, and what follows the name decides whether it
has a value.  Only a quotation mark that nothing closes ends the reading early; the text is cut off then.

* `Reading` has one constructor for each kind of part.  Every text has a reading (`exists_reading`), it
  is cut off or not in all of them (`Reading.cut_unique`), and it finds what is found character by
  character (`Reading.run_eq`).
* `Reading.followed`, `Reading.closed_off`: what a text adds behind one that is read to its end, and
  behind one that is cut off.
* `parse_append_blanks`: the parameters of two texts with blanks between them.
-/

namespace WikiPage

/-! ## 1. One map over another -/

namespace NameMap

variable {α : Type}

/-- A map with the values of another one in the stead of its own. -/
def overriddenBy (a b : NameMap α) : NameMap α :=
  b.entries.foldl (fun map (name, value) => map.insert name value) a

theorem get?_foldl_sorted (key : String) : ∀ {entries : List (String × α)},
    entries.Pairwise (fun a b => a.1 < b.1) → ∀ a : NameMap α,
      (entries.foldl (fun map (name, value) => map.insert name value) a).get? key =
        (lookupEntry key entries).or (a.get? key)
  | [], _, _ => rfl
  | (name, value) :: entries, h, a => by
    obtain ⟨hlt, hsorted⟩ := List.pairwise_cons.1 h
    rw [List.foldl_cons, get?_foldl_sorted key hsorted, get?_insert, lookupEntry]
    by_cases hkey : key = name
    · subst hkey
      -- the names are in order, so this one does not come again
      simp [lookupEntry_of_lt hlt]
    · simp [hkey]

/-- A look-up sees the other map first. -/
theorem get?_overriddenBy (a b : NameMap α) (key : String) :
    (a.overriddenBy b).get? key = (b.get? key).or (a.get? key) :=
  get?_foldl_sorted key b.sorted a

end NameMap

namespace Shortcode

/-! ## 2. Readings -/

/-- A name of a parameter. -/
def IsParamName (name : List Char) : Prop := name ≠ [] ∧ ∀ c ∈ name, isNameChar c = true

instance (name : List Char) : Decidable (IsParamName name) :=
  decidable_of_iff (name ≠ [] ∧ name.all isNameChar = true) (and_congr_right' List.all_eq_true)

/-- A text with the parameters that are found in it, and whether it is cut off. -/
inductive Reading : List Char → List (String × ParamValue) → Bool → Prop where
  | nothing : Reading [] [] false
  /-- A blank, or another character that begins nothing, is passed over. -/
  | passed {c : Char} {rest found cut} (skipped : isNameChar c = false)
      (further : Reading rest found cut) : Reading (c :: rest) found cut
  /-- A name without an equals sign after it. -/
  | bare {name rest found cut} (named : IsParamName name)
      (ends : ∀ c ∈ rest.head?, isNameChar c = false ∧ c ≠ '=')
      (further : Reading rest found cut) :
      Reading (name ++ rest) ((String.ofList name, .flag) :: found) cut
  /-- A name and an equals sign without a quotation mark after it; what follows is read as usual. -/
  | unquoted {name rest found cut} (named : IsParamName name) (ends : ∀ c ∈ rest.head?, c ≠ '"')
      (further : Reading rest found cut) :
      Reading (name ++ '=' :: rest) ((String.ofList name, .flag) :: found) cut
  /-- A name with a value between quotation marks, perhaps an empty one. -/
  | quoted {name value rest found cut} (named : IsParamName name) (unmarked : '"' ∉ value)
      (further : Reading rest found cut) :
      Reading (name ++ '=' :: '"' :: (value ++ '"' :: rest))
        ((String.ofList name, quotedValue value) :: found) cut
  /-- A name with a quotation mark that nothing closes: what follows is not read. -/
  | unclosed {name rest} (named : IsParamName name) (unmarked : '"' ∉ rest) :
      Reading (name ++ '=' :: '"' :: rest) [(String.ofList name, .flag)] true

/-- Whether the reading of a text stops at a quotation mark that nothing closes. -/
def CutOff (text : String) : Prop := ∃ found, Reading text.toList found true

namespace ParamScan

variable {rest : List Char}

/-- A character that begins nothing is passed over. -/
theorem run_passed {c : Char} (hc : isNameChar c = false) : outside.run (c :: rest) = outside.run rest := by
  simp [run, step, begin, hc]

/-- What does not go on a name ends it. -/
theorem run_bare (h : ∀ c ∈ rest.head?, isNameChar c = false ∧ c ≠ '=') (held : List Char) :
    (name held).run rest = flag held :: outside.run rest := by
  cases rest with
  | nil => rfl
  | cons c rest =>
    obtain ⟨hname, hequals⟩ := h c rfl
    simp [run, step, begin, hname, hequals]

/-- After an equals sign, all but a quotation mark is read as usual. -/
theorem run_unquoted (h : ∀ c ∈ rest.head?, c ≠ '"') (held : List Char) :
    (equals held).run rest = flag held :: outside.run rest := by
  cases rest with
  | nil => rfl
  | cons c rest => simp [run, step, h c rfl]

theorem run_equals (held : List Char) : (name held).run ('=' :: rest) = (equals held).run rest := by
  have hequals : isNameChar '=' = false := by decide
  simp [run, step, hequals]

/-- Without a quotation mark a value goes on to the end. -/
theorem run_unclosed : ∀ {rest : List Char}, '"' ∉ rest → ∀ named held : List Char,
    (value named held).run rest = [flag named]
  | [], _, _, _ => rfl
  | c :: rest, h, named, held => by
    have hc : c ≠ '"' := fun hc => h (hc ▸ List.mem_cons_self)
    have ih := run_unclosed (fun hmem => h (List.mem_cons_of_mem _ hmem)) named (c :: held)
    simpa [run, step, hc] using ih

end ParamScan

open ParamScan in
/-- **A reading finds what is found character by character.** -/
theorem Reading.run_eq {text : List Char} {found : List (String × ParamValue)} {cut : Bool}
    (h : Reading text found cut) : outside.run text = found := by
  induction h with
  | nothing => rfl
  | passed skipped _ ih => rw [run_passed skipped, ih]
  | bare named ends _ ih =>
    rw [run_outside_name named.1 named.2, run_bare ends, ih, flag, List.reverse_reverse]
  | unquoted named ends _ ih =>
    rw [run_outside_name named.1 named.2, run_equals, run_unquoted ends, ih, flag,
      List.reverse_reverse]
  | @quoted name value rest _ _ named unmarked _ ih =>
    have hvalue := @run_value rest value unmarked name.reverse []
    rw [ih, List.reverse_reverse, List.reverse_nil, List.nil_append] at hvalue
    rw [run_outside_name named.1 named.2, run_equals]
    exact hvalue
  | @unclosed name rest named unmarked =>
    have hvalue := run_unclosed unmarked name.reverse []
    rw [flag, List.reverse_reverse] at hvalue
    rw [run_outside_name named.1 named.2, run_equals]
    exact hvalue

/-- A text begins with as much of a name as there is. -/
theorem exists_name (text : List Char) : ∃ name rest, text = name ++ rest ∧
    (∀ c ∈ name, isNameChar c = true) ∧ ∀ c ∈ rest.head?, isNameChar c = false :=
  ⟨text.takeWhile isNameChar, text.dropWhile isNameChar, List.takeWhile_append_dropWhile.symm,
    fun _ hc => List.mem_takeWhile_imp hc, fun c hc => by
      have hhead := List.head?_dropWhile_not isNameChar text
      rw [hc] at hhead
      simpa using hhead⟩

/-- **Every text has a reading**: each part leaves less to be read. -/
theorem exists_reading (text : List Char) : ∃ found cut, Reading text found cut := by
  induction hlength : text.length using Nat.strongRecOn generalizing text with
  | ind length ih =>
  subst hlength
  obtain ⟨name, rest, rfl, hname, hrest⟩ := exists_name text
  by_cases hne : name = []
  · subst hne
    cases rest with
    | nil => exact ⟨_, _, .nothing⟩
    | cons c rest =>
      obtain ⟨_, _, further⟩ := ih rest.length (by simp) rest rfl
      exact ⟨_, _, .passed (hrest c rfl) further⟩
  have named : IsParamName name := ⟨hne, hname⟩
  have hpos := List.length_pos_iff.2 hne
  by_cases hequals : rest.head? = some '='
  · obtain ⟨rest, rfl⟩ := List.head?_eq_some_iff.1 hequals
    by_cases hquote : rest.head? = some '"'
    · obtain ⟨rest, rfl⟩ := List.head?_eq_some_iff.1 hquote
      by_cases hclosed : '"' ∈ rest
      · obtain ⟨value, rest, rfl, unmarked⟩ := List.eq_append_cons_of_mem hclosed
        obtain ⟨_, _, further⟩ := ih rest.length (by simp; omega) rest rfl
        exact ⟨_, _, .quoted named unmarked further⟩
      · exact ⟨_, _, .unclosed named hclosed⟩
    · obtain ⟨_, _, further⟩ := ih rest.length (by simp; omega) rest rfl
      exact ⟨_, _, .unquoted named (fun c hc heq => hquote (heq ▸ hc)) further⟩
  · obtain ⟨_, _, further⟩ := ih rest.length (by simp; omega) rest rfl
    exact ⟨_, _, .bare named (fun c hc => ⟨hrest c hc, fun heq => hequals (heq ▸ hc)⟩) further⟩

/-! ## 3. Readings of texts in a row -/

section Row

variable {a b spaces : List Char} {found found' : List (String × ParamValue)} {cut : Bool}

/-- What is cut off has a quotation mark. -/
theorem Reading.quote_mem (h : Reading a found true) : '"' ∈ a := by
  generalize htrue : true = cut at h
  induction h with
  | nothing => cases htrue
  | passed _ _ ih => exact List.mem_cons_of_mem _ (ih htrue)
  | bare _ _ _ ih => exact List.mem_append_right _ (ih htrue)
  | unquoted _ _ _ ih => exact List.mem_append_right _ (List.mem_cons_of_mem _ (ih htrue))
  | quoted => simp
  | unclosed => simp

/-- **Behind a text that is cut off**, what has no quotation mark changes nothing. -/
theorem Reading.closed_off (h : Reading a found true) (hb : '"' ∉ b) :
    Reading (a ++ b) found true := by
  generalize htrue : true = cut at h
  induction h with
  | nothing => cases htrue
  | passed skipped _ ih => exact .passed skipped (ih htrue)
  | @bare name rest _ _ named ends further ih =>
    subst htrue
    -- there is a quotation mark further on, so the same character ends the name
    obtain ⟨c, rest, rfl⟩ := List.exists_cons_of_ne_nil (List.ne_nil_of_mem further.quote_mem)
    rw [List.append_assoc]
    exact .bare named ends (ih rfl)
  | @unquoted name rest _ _ named ends further ih =>
    subst htrue
    obtain ⟨c, rest, rfl⟩ := List.exists_cons_of_ne_nil (List.ne_nil_of_mem further.quote_mem)
    rw [List.append_assoc]
    exact .unquoted named ends (ih rfl)
  | @quoted name value rest _ _ named unmarked further ih =>
    have := Reading.quoted named unmarked (ih htrue)
    simpa using this
  | @unclosed name rest named unmarked =>
    have hrest : '"' ∉ rest ++ b := by simp [unmarked, hb]
    have := Reading.unclosed named hrest
    simpa using this

/-- Blanks are passed over. -/
theorem Reading.blanks_append (h : Reading b found cut) : ∀ {blanks : List Char},
    (∀ c ∈ blanks, Unicode.isBlank c = true) → Reading (blanks ++ b) found cut
  | [], _ => h
  | c :: _, hblank =>
    .passed (isNameChar_of_isBlank (hblank c List.mem_cons_self))
      (h.blanks_append fun c' hc' => hblank c' (List.mem_cons_of_mem _ hc'))

/-- A blank is none of the characters that markers are made of. -/
theorem isBlank_ends {c : Char} (hc : Unicode.isBlank c = true) :
    isNameChar c = false ∧ c ≠ '=' ∧ c ≠ '"' := by
  refine ⟨isNameChar_of_isBlank hc, ?_, ?_⟩ <;>
  · rintro rfl
    revert hc
    decide

/-- What holds of blanks, and of the start of a text, holds of the start of the text with blanks behind. -/
theorem head?_append_spaces {P : Char → Prop} {rest : List Char} (hne : spaces ≠ [])
    (hspaces : ∀ c ∈ spaces, P c) (hrest : ∀ c ∈ rest.head?, P c) :
    ∀ c ∈ (rest ++ (spaces ++ b)).head?, P c := by
  cases rest with
  | nil =>
    obtain ⟨space, spaces, rfl⟩ := List.exists_cons_of_ne_nil hne
    intro c hc
    cases hc
    exact hspaces space List.mem_cons_self
  | cons c rest => exact hrest

/-- **Behind a text that is read to its end**, and blanks, reading begins anew. -/
theorem Reading.followed (h : Reading a found false) (hne : spaces ≠ [])
    (hblank : ∀ c ∈ spaces, Unicode.isBlank c = true) (hb : Reading b found' cut) :
    Reading (a ++ (spaces ++ b)) (found ++ found') cut := by
  generalize hfalse : false = done at h
  induction h with
  | nothing => exact hb.blanks_append hblank
  | passed skipped _ ih => exact .passed skipped (ih hfalse)
  | bare named ends _ ih =>
    rw [List.append_assoc]
    exact .bare named (head?_append_spaces hne
      (fun c hc => ⟨(isBlank_ends (hblank c hc)).1, (isBlank_ends (hblank c hc)).2.1⟩) ends) (ih hfalse)
  | unquoted named ends _ ih =>
    rw [List.append_assoc]
    exact .unquoted named (head?_append_spaces hne (fun c hc => (isBlank_ends (hblank c hc)).2.2) ends)
      (ih hfalse)
  | quoted named unmarked _ ih =>
    have := Reading.quoted named unmarked (ih hfalse)
    simpa using this
  | unclosed => cases hfalse

/-- **A text is cut off in all its readings or in none**: only behind one that is not, something more
is found. -/
theorem Reading.cut_unique (h : Reading a found true) (h' : Reading a found' false) : False := by
  have hname : IsParamName ['x'] := by decide +kernel
  have hmore : Reading ['x'] [("x", .flag)] false := .bare hname (fun c hc => by cases hc) .nothing
  have hblank : ∀ c ∈ [' '], Unicode.isBlank c = true := List.all_eq_true.1 (by decide +kernel)
  have hcut := (h.closed_off (b := [' ', 'x']) (by decide)).run_eq
  have hread := (h'.followed (List.cons_ne_nil ' ' []) hblank hmore).run_eq
  have hsame : found = found' := h.run_eq.symm.trans h'.run_eq
  have : found' ++ [("x", .flag)] = found' := hread.symm.trans (hcut.trans hsame)
  simp at this

end Row

theorem reading_of_not_cutOff {text : String} (h : ¬ CutOff text) :
    Reading text.toList (scanParams text.toList) false := by
  obtain ⟨found, cut, hread⟩ := exists_reading text.toList
  have hfound : scanParams text.toList = found := hread.run_eq
  cases cut with
  | false => exact hfound ▸ hread
  | true => exact absurd ⟨found, hread⟩ h

theorem not_cutOff_of_reading {text : String} {found : List (String × ParamValue)}
    (h : Reading text.toList found false) : ¬ CutOff text := fun ⟨_, hcut⟩ => hcut.cut_unique h

/-- Putting entries into a map is putting them into the empty one, over the map. -/
theorem foldl_insert_eq_overriddenBy {α : Type} (entries : List (String × α)) (map : NameMap α) :
    entries.foldl (fun map (name, value) => map.insert name value) map =
      map.overriddenBy
        (entries.foldl (fun map (name, value) => map.insert name value) NameMap.empty) :=
  NameMap.ext_get? fun key => by
    rw [NameMap.get?_overriddenBy, get?_foldl_insert, get?_foldl_insert]
    cases entries.reverse.find? (·.1 == key) <;> rfl

/-- **Texts with blanks between them**: if the first one is not cut off, its parameters stand with those
of the second one in the stead of their like; if it is, and the second one has no quotation mark that
could close it, the second one adds nothing. -/
theorem parse_append_blanks (a b spaces : String) (hne : spaces ≠ "")
    (hblank : ∀ c ∈ spaces.toList, Unicode.isBlank c = true) :
    (¬ CutOff a →
      Params.parse (a ++ spaces ++ b) = (Params.parse a).overriddenBy (Params.parse b)) ∧
    (CutOff a → '"' ∉ b.toList → Params.parse (a ++ spaces ++ b) = Params.parse a) := by
  have htext : (a ++ spaces ++ b).toList = a.toList ++ (spaces.toList ++ b.toList) := by
    simp [String.toList_append]
  constructor
  · intro ha
    obtain ⟨found, cut, hb⟩ := exists_reading b.toList
    have hspaces : spaces.toList ≠ [] := fun h => hne (String.toList_eq_nil_iff.1 h)
    have hread := ((reading_of_not_cutOff ha).followed hspaces hblank hb).run_eq
    have hscan : scanParams (a ++ spaces ++ b).toList =
        scanParams a.toList ++ scanParams b.toList := by
      rw [htext, scanParams, hread, ← hb.run_eq]
      rfl
    rw [Params.parse, hscan, List.foldl_append, foldl_insert_eq_overriddenBy]
    rfl
  · rintro ⟨found, ha⟩ hb
    have hquote : '"' ∉ spaces.toList ++ b.toList := by
      simp only [List.mem_append, not_or]
      exact ⟨fun h => (isBlank_ends (hblank _ h)).2.2 rfl, hb⟩
    have hscan : scanParams (a ++ spaces ++ b).toList = scanParams a.toList := by
      rw [htext, scanParams, (ha.closed_off hquote).run_eq, scanParams, ha.run_eq]
    rw [Params.parse, hscan, Params.parse]

/-- A text with a character that begins nothing, and with an equals sign at its end. -/
def looseParams : String := "gte=\"4.0\" @ is="

/-- A text with a value that nothing belongs to, and with one that is not closed. -/
def openParams : String := "\"5\" gte=\"5.0"

/-- The one is read to its end, the other one is cut off. -/
theorem cutOff_openParams : ¬ CutOff looseParams ∧ CutOff openParams := by
  have hgte : IsParamName ['g', 't', 'e'] := by decide +kernel
  have his : IsParamName ['i', 's'] := by decide +kernel
  have hfive : IsParamName ['5'] := by decide +kernel
  have hloose : Reading looseParams.toList [("gte", .text "4.0"), ("is", .flag)] false := by
    have hlast : Reading ['i', 's', '='] [("is", .flag)] false :=
      .unquoted his (fun c hc => by cases hc) .nothing
    exact @Reading.quoted _ ['4', '.', '0'] _ _ _ hgte (by decide)
      (.passed rfl (.passed rfl (.passed rfl hlast)))
  have hopen : Reading openParams.toList [("5", .flag), ("gte", .flag)] true := by
    have hlast : Reading ['g', 't', 'e', '=', '"', '5', '.', '0'] [("gte", .flag)] true :=
      .unclosed hgte (by decide)
    exact .passed rfl (.bare hfive (fun c hc => by cases hc; decide)
      (.passed rfl (.passed rfl hlast)))
  exact ⟨not_cutOff_of_reading hloose, _, hopen⟩

/-- Both of them with blanks and another text behind. -/
theorem parse_append_blanks_loose :
    Params.parse (looseParams ++ " \t" ++ openParams) =
        (Params.parse looseParams).overriddenBy (Params.parse openParams) ∧
      (Params.parse (looseParams ++ " \t" ++ openParams)).entries =
        [("5", .flag), ("gte", .flag), ("is", .flag)] ∧
      Params.parse (openParams ++ " \t" ++ "lt=5.2") = Params.parse openParams := by
  have hblank : ∀ c ∈ " \t".toList, Unicode.isBlank c = true :=
    List.all_eq_true.1 (by decide +kernel)
  refine ⟨?_, by decide +kernel, ?_⟩
  · exact (parse_append_blanks looseParams openParams " \t" (by decide) hblank).1
      cutOff_openParams.1
  · exact (parse_append_blanks openParams "lt=5.2" " \t" (by decide) hblank).2
      cutOff_openParams.2 (by decide +kernel)

end Shortcode

end WikiPage
