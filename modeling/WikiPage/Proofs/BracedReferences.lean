import WikiPage.Config.Template
/-!
# References in braces

A setting is meant to refer to variables in braces only, and every other character of it stands for
itself.  That is how it is read when it has no brace behind a dollar sign, and also when it has one, but
for dollar signs outside of references: with a dollar sign or a name behind them, they are read as more.

* `bracedPieces` are the pieces that are meant; `sources_bracedPieces`: together they are the setting.
* `templatePieces_eq_bracedPieces`, `shownAll_ne`: without such dollar signs those are the pieces that are
  replaced, and with one they are not even the same text in the end.
* `expand_replaces_iff`: the settings in which references in braces are replaced, and nothing else.
-/

namespace WikiPage.Config

open TemplatePiece

/-! ## 1. What is meant -/

namespace TemplatePiece

/-- A piece as it is written. -/
def source : TemplatePiece → List Char
  | plain c => [c]
  | reference name none => '$' :: '{' :: (name.toList ++ ['}'])
  | reference name (some fallback) =>
    '$' :: '{' :: (name.toList ++ ':' :: '-' :: (fallback ++ ['}']))

/-- What a piece stands for: a reference for the value of its variable, else for its fallback. -/
def text? (env : String → Option String) : TemplatePiece → Option (List Char)
  | plain c => some [c]
  | reference name fallback => ((env name).map String.toList).or fallback

end TemplatePiece

/-- The pieces of a setting, when it refers to variables in braces only. -/
def bracedPieces : List Char → List TemplatePiece
  | [] => []
  | '$' :: '{' :: rest =>
    if rest.contains '}' then
      braced (rest.takeWhile (· != '}')) :: bracedPieces ((rest.dropWhile (· != '}')).drop 1)
    else plain '$' :: plain '{' :: bracedPieces rest
  | c :: rest => plain c :: bracedPieces rest
termination_by text => text.length
decreasing_by
  all_goals simp only [List.length_cons, List.length_drop]
  · have := (List.dropWhile_sublist (· != '}') (l := rest)).length_le
    omega
  · omega
  · omega

/-- Whether a setting has been replaced as it is meant: every piece by what it stands for, or not at all,
because a reference without a fallback names a variable that is not set. -/
def Replaces (env : String → Option String) (setting : String) : Except String String → Prop
  | .ok text => ∃ texts : List (List Char),
      (bracedPieces setting.toList).map (text? env) = texts.map some ∧ text.toList = texts.flatten
  | .error name => reference name none ∈ bracedPieces setting.toList ∧ env name = none

/-- Whether a dollar sign outside of references has another one or a name behind it. -/
def hasBareName : List TemplatePiece → Bool
  | [] => false
  | piece :: rest =>
    (piece == plain '$' && (rest.flatMap source).head?.any fun c => c == '$' || isNameChar c) ||
      hasBareName rest

/-! ## 2. Pieces -/

section Pieces

variable {rest : List Char} {c : Char}

theorem splitFallback_spec (inside : List Char) :
    inside = (splitFallback inside).1 ++
      match (splitFallback inside).2 with
      | none => []
      | some fallback => ':' :: '-' :: fallback := by
  fun_induction splitFallback inside with
  | case1 => rfl
  | case2 c rest _ name fallback h ih =>
    rw [h] at ih
    rw [List.cons_append, ← ih]
  | case3 => rfl

/-- A reference is written with what it has between its braces. -/
theorem source_braced (inside : List Char) :
    (braced inside).source = '$' :: '{' :: (inside ++ ['}']) := by
  have hsplit := splitFallback_spec inside
  unfold braced
  split
  · rename_i c name fallback h
    rw [h] at hsplit
    have hinside : inside = c :: name ++ ':' :: '-' :: fallback := hsplit
    rw [source, String.toList_ofList, hinside]
    simp
  · rw [source, String.toList_ofList]

/-- What stands before the first closing brace, the brace, and what stands behind it. -/
theorem takeWhile_append_closed (h : rest.contains '}' = true) :
    rest.takeWhile (· != '}') ++ '}' :: (rest.dropWhile (· != '}')).drop 1 = rest := by
  obtain ⟨inside, behind, rfl, hinside⟩ := List.eq_append_cons_of_mem (List.contains_iff_mem.1 h)
  have hne : ∀ c ∈ inside, (c != '}') = true := fun c hc =>
    bne_iff_ne.2 fun heq => hinside (heq ▸ hc)
  rw [List.takeWhile_append_of_pos hne, List.dropWhile_append_of_pos hne]
  simp

theorem bracedPieces_cons (h : c = '$' → rest.head? ≠ some '{') :
    bracedPieces (c :: rest) = plain c :: bracedPieces rest := by
  rw [bracedPieces]
  rintro rest' rfl rfl
  exact h rfl rfl

theorem bracedPieces_closed (h : rest.contains '}' = true) :
    bracedPieces ('$' :: '{' :: rest) = braced (rest.takeWhile (· != '}')) ::
      bracedPieces ((rest.dropWhile (· != '}')).drop 1) := by
  rw [bracedPieces, if_pos h]

theorem bracedPieces_opened (h : rest.contains '}' = false) :
    bracedPieces ('$' :: '{' :: rest) = plain '$' :: plain '{' :: bracedPieces rest := by
  rw [bracedPieces, h, if_neg Bool.false_ne_true]

/-- **The pieces of a setting are the setting**, piece by piece. -/
theorem sources_bracedPieces (text : List Char) : (bracedPieces text).flatMap source = text := by
  fun_induction bracedPieces text with
  | case1 => rfl
  | case2 rest h ih =>
    rw [List.flatMap_cons, ih, source_braced]
    simpa using takeWhile_append_closed h
  | case3 rest h ih => simp [source, ih]
  | case4 c rest _ ih => simp [source, ih]

end Pieces

/-! ## 3. Settings without names that are not in braces -/

section Names

variable {c : Char} {rest : List Char} {pieces : List TemplatePiece}

theorem hasBareName_braced (inside : List Char) :
    hasBareName (braced inside :: pieces) = hasBareName pieces := by
  unfold braced
  split <;> rfl

theorem hasBareName_plain (h : c ≠ '$') :
    hasBareName (plain c :: pieces) = hasBareName pieces := by
  simp [hasBareName, h]

theorem hasBareName_dollar : hasBareName (plain '$' :: bracedPieces rest) =
    ((rest.head?.any fun c => c == '$' || isNameChar c) || hasBareName (bracedPieces rest)) := by
  rw [hasBareName, sources_bracedPieces]
  rfl

theorem bracedPieces_dollar (h : rest.head? ≠ some '{') :
    bracedPieces ('$' :: rest) = plain '$' :: bracedPieces rest := bracedPieces_cons fun _ => h

theorem hasBareName_opened (h : rest.contains '}' = false) :
    hasBareName (bracedPieces ('$' :: '{' :: rest)) = hasBareName (bracedPieces rest) := by
  have hbrace : isNameChar '{' = false := by decide
  rw [bracedPieces_opened h]
  simp [hasBareName, source, hbrace]

/-- A dollar sign with a name or another dollar sign behind it. -/
theorem hasBareName_read (hbrace : c ≠ '{') (h : c = '$' ∨ isNameChar c = true) :
    hasBareName (bracedPieces ('$' :: c :: rest)) = true := by
  rw [bracedPieces_dollar (by simpa using hbrace), hasBareName_dollar]
  rcases h with rfl | h
  · simp
  · simp [h]

/-- A dollar sign with something else behind it. -/
theorem hasBareName_alone (hbrace : c ≠ '{') (hdollar : c ≠ '$') (h : ¬ isNameChar c = true) :
    hasBareName (bracedPieces ('$' :: c :: rest)) = hasBareName (bracedPieces (c :: rest)) := by
  rw [bracedPieces_dollar (by simpa using hbrace), hasBareName_dollar]
  simp [hdollar, h]

/-- Any other character, and a dollar sign at the end. -/
theorem hasBareName_other (h : c = '$' → rest = []) :
    bracedPieces (c :: rest) = plain c :: bracedPieces rest ∧
      hasBareName (bracedPieces (c :: rest)) = hasBareName (bracedPieces rest) := by
  have hcons := @bracedPieces_cons rest c fun hc => by simp [h hc]
  refine ⟨hcons, ?_⟩
  by_cases hc : c = '$'
  · subst hc
    rw [hcons, hasBareName_dollar, h rfl]
    rfl
  · rw [hcons, hasBareName_plain hc]

theorem eq_nil_of_alone (h : ∀ (d : Char) (behind : List Char), c = '$' → rest = d :: behind → False) :
    c = '$' → rest = [] := fun hc => by
  cases rest with
  | nil => rfl
  | cons d behind => exact (h d behind hc rfl).elim

/-- **The same pieces**: without a dollar sign that is read as more, those that are meant are replaced. -/
theorem templatePieces_eq_bracedPieces (text : List Char) :
    hasBareName (bracedPieces text) = false → templatePieces text = bracedPieces text := by
  fun_induction templatePieces text with
  | case1 => intro _; rw [bracedPieces]
  | case2 rest hclosed ih =>
    rw [bracedPieces_closed hclosed, hasBareName_braced]
    exact fun h => congrArg _ (ih h)
  | case3 rest hopen ih =>
    rw [hasBareName_opened (Bool.eq_false_iff.2 hopen), bracedPieces_opened (Bool.eq_false_iff.2 hopen)]
    exact fun h => congrArg _ (congrArg _ (ih h))
  | case4 rest ih =>
    rw [hasBareName_read (by decide) (.inl rfl)]
    exact fun h => nomatch h
  | case5 c rest hbrace _ hc =>
    rw [hasBareName_read hbrace (.inr hc)]
    exact fun h => nomatch h
  | case6 c rest hbrace hdollar hc ih =>
    rw [hasBareName_alone hbrace hdollar hc, bracedPieces_dollar (by simpa using hbrace)]
    exact fun h => congrArg _ (ih h)
  | case7 c rest _ _ halone ih =>
    obtain ⟨hcons, hbare⟩ := hasBareName_other (eq_nil_of_alone halone)
    rw [hbare, hcons]
    exact fun h => congrArg _ (ih h)

/-! ## 4. Settings with such names -/

/-- What a piece stands for when every variable is set to one and the same letter. -/
def shown : TemplatePiece → List Char
  | plain c => [c]
  | reference _ _ => ['x']

/-- The text of pieces then. -/
def shownAll (pieces : List TemplatePiece) : List Char := pieces.flatMap shown

theorem shownAll_braced (inside : List Char) :
    shownAll (braced inside :: pieces) = 'x' :: shownAll pieces := by
  unfold braced
  split <;> rfl

theorem shownAll_plain (c : Char) : shownAll (plain c :: pieces) = c :: shownAll pieces := rfl

theorem templatePieces_of_ne (h : c ≠ '$') :
    templatePieces (c :: rest) = plain c :: templatePieces rest := by
  rw [templatePieces]
  all_goals intros; contradiction

/-- Dollar signs in a row, before what is meant. -/
theorem shownAll_dollar (h : rest.head? ≠ some '{') (count : Nat) :
    List.replicate count '$' ++ shownAll (bracedPieces ('$' :: rest)) =
      '$' :: (List.replicate count '$' ++ shownAll (bracedPieces rest)) := by
  rw [bracedPieces_dollar h, shownAll_plain, List.append_cons, ← List.replicate_succ',
    List.replicate_succ, List.cons_append]

/-- With dollar signs more before what is meant, it is not what is replaced, whatever stands behind them:
of two dollar signs one is taken away, and nothing makes a dollar sign. -/
theorem shownAll_ne_dollar (text : List Char) : ∀ count : Nat,
    shownAll (templatePieces text) ≠
      List.replicate count '$' ++ shownAll (bracedPieces ('$' :: text)) := by
  fun_induction templatePieces text with
  | case1 =>
    intro count
    rw [shownAll_dollar (by simp)]
    exact List.cons_ne_nil _ _ ∘ Eq.symm
  | case2 rest hclosed ih =>
    intro count
    rw [shownAll_dollar (by simp), shownAll_braced]
    simp
  | case3 rest hopen ih =>
    intro count
    rw [shownAll_dollar (by simp), bracedPieces_opened (Bool.eq_false_iff.2 hopen)]
    cases count <;> simp [shownAll_plain, List.replicate_succ]
  | case4 rest ih =>
    intro count h
    rw [shownAll_dollar (by simp), shownAll_plain, bracedPieces_dollar (by simp), shownAll_plain,
      List.append_cons, ← List.replicate_succ'] at h
    exact ih (count + 1) (List.cons.inj h).2
  | case5 c rest hbrace _ hc =>
    intro count
    rw [shownAll_dollar (by simp)]
    simp [shownAll, shown]
  | case6 c rest hbrace hdollar hc ih =>
    intro count
    rw [shownAll_dollar (by simp), shownAll_plain, templatePieces_of_ne hdollar, shownAll_plain,
      shownAll_dollar (by simpa using hbrace)]
    simpa using fun h => absurd h hdollar
  | case7 c rest _ _ hlone ih =>
    intro count
    by_cases hdollar : c = '$'
    · obtain rfl := eq_nil_of_alone hlone hdollar
      subst hdollar
      rw [shownAll_dollar (by simp), shownAll_dollar (by simp), shownAll_plain, templatePieces]
      simp [shownAll]
    by_cases hbrace : c = '{'
    · subst hbrace
      rw [shownAll_plain]
      cases count with
      | zero =>
        cases hclosed : rest.contains '}' with
        | false => simp [bracedPieces_opened hclosed, shownAll_plain]
        | true => simp [bracedPieces_closed hclosed, shownAll_braced]
      | succ count => simp [List.replicate_succ]
    · rw [shownAll_dollar (by simpa using hbrace), shownAll_plain]
      simp [hdollar]

/-- **Another text**: with a dollar sign that is read as more, what is meant is not what is replaced. -/
theorem shownAll_ne (text : List Char) : hasBareName (bracedPieces text) = true →
    shownAll (templatePieces text) ≠ shownAll (bracedPieces text) := by
  fun_induction templatePieces text with
  | case1 =>
    rw [bracedPieces]
    exact fun h => nomatch h
  | case2 rest hclosed ih =>
    rw [bracedPieces_closed hclosed, hasBareName_braced, shownAll_braced, shownAll_braced]
    exact fun h heq => ih h (List.cons.inj heq).2
  | case3 rest hopen ih =>
    rw [hasBareName_opened (Bool.eq_false_iff.2 hopen), bracedPieces_opened (Bool.eq_false_iff.2 hopen)]
    exact fun h heq => ih h (List.cons.inj (List.cons.inj heq).2).2
  | case4 rest ih =>
    rw [bracedPieces_dollar (by simp), shownAll_plain, shownAll_plain]
    exact fun _ heq => shownAll_ne_dollar rest 0 (List.cons.inj heq).2
  | case5 c rest hbrace _ hc =>
    rw [bracedPieces_dollar (by simpa using hbrace), shownAll_plain]
    simp [shownAll, shown]
  | case6 c rest hbrace hdollar hc ih =>
    rw [hasBareName_alone hbrace hdollar hc, bracedPieces_dollar (by simpa using hbrace)]
    exact fun h heq => ih h (List.cons.inj heq).2
  | case7 c rest _ _ halone ih =>
    obtain ⟨hcons, hbare⟩ := hasBareName_other (eq_nil_of_alone halone)
    rw [hbare, hcons]
    exact fun h heq => ih h (List.cons.inj heq).2

end Names

/-! ## 5. Replacing -/

section Replacing

variable {env : String → Option String}

/-- A piece is replaced by what it stands for, or it is a reference that stands for nothing. -/
theorem fill_cases (env : String → Option String) (piece : TemplatePiece) :
    (∃ text, (fill (m := Id) env piece).run = .ok text ∧ text? env piece = some text) ∨
      ∃ name, (fill (m := Id) env piece).run = .error name ∧ piece = reference name none ∧
        env name = none := by
  cases piece with
  | plain c => exact .inl ⟨[c], rfl, rfl⟩
  | reference name fallback =>
    cases henv : env name with
    | some value => exact .inl ⟨value.toList, by simp only [fill, henv]; rfl, by simp [text?, henv]⟩
    | none =>
      cases fallback with
      | some text => exact .inl ⟨text, by simp only [fill, henv]; rfl, by simp [text?, henv]⟩
      | none => exact .inr ⟨name, by simp only [fill, henv]; rfl, rfl, henv⟩

/-- So are pieces in a row. -/
theorem mapM_fill_cases (env : String → Option String) (pieces : List TemplatePiece) :
    (∃ texts : List (List Char), (pieces.mapM (fill (m := Id) env)).run = .ok texts ∧
        pieces.map (text? env) = texts.map some) ∨
      ∃ name, (pieces.mapM (fill (m := Id) env)).run = .error name ∧
        reference name none ∈ pieces ∧ env name = none := by
  induction pieces with
  | nil => exact .inl ⟨[], rfl, rfl⟩
  | cons piece rest ih =>
    simp only [List.mapM_cons, ExceptT.run_bind]
    obtain ⟨text, hfill, htext⟩ | ⟨name, hfill, rfl, hname⟩ := fill_cases env piece
    · obtain ⟨texts, hrest, htexts⟩ | ⟨name, hrest, hmem, hname⟩ := ih
      · exact .inl ⟨text :: texts, by rw [hfill, hrest]; rfl, by simp [htext, htexts]⟩
      · exact .inr ⟨name, by rw [hfill, hrest]; rfl, List.mem_cons_of_mem _ hmem, hname⟩
    · exact .inr ⟨name, by rw [hfill]; rfl, List.mem_cons_self, hname⟩

theorem run_expand {setting : String} (h : hasBraces setting.toList = true)
    (env : String → Option String) : (expand (m := Id) env setting).run =
      ((templatePieces setting.toList).mapM (fill (m := Id) env)).run.map
        fun texts => String.ofList texts.flatten := by
  rw [expand, if_pos h]
  simp only [ExceptT.run_bind]
  cases ((templatePieces setting.toList).mapM (fill (m := Id) env)).run with
  | ok texts => rfl
  | error name => rfl

/-- What becomes of a setting with braces. -/
theorem expand_braced_cases {setting : String} (h : hasBraces setting.toList = true)
    (env : String → Option String) :
    (∃ texts : List (List Char),
        (expand (m := Id) env setting).run = .ok (String.ofList texts.flatten) ∧
          (templatePieces setting.toList).map (text? env) = texts.map some) ∨
      ∃ name, (expand (m := Id) env setting).run = .error name ∧
        reference name none ∈ templatePieces setting.toList ∧ env name = none := by
  obtain ⟨texts, hrun, htexts⟩ | ⟨name, hrun, hname⟩ :=
    mapM_fill_cases env (templatePieces setting.toList)
  · exact .inl ⟨texts, by rw [run_expand h, hrun]; rfl, htexts⟩
  · exact .inr ⟨name, by rw [run_expand h, hrun]; rfl, hname⟩

theorem bracedPieces_of_not_braced : ∀ {text : List Char}, hasBraces text = false →
    bracedPieces text = text.map plain
  | [], _ => by rw [bracedPieces]; rfl
  | c :: rest, h => by
    simp only [hasBraces, Bool.or_eq_false_iff] at h
    rw [bracedPieces_cons fun hc => ?_, bracedPieces_of_not_braced h.2, List.map_cons]
    intro hhead
    obtain ⟨rest, rfl⟩ := List.head?_eq_some_iff.1 hhead
    subst hc
    exact absurd h.1 (by simp)

/-- A setting without braces is replaced by itself. -/
theorem replaces_of_not_braced {setting : String} (h : hasBraces setting.toList = false) :
    Replaces env setting (.ok setting) := by
  refine ⟨setting.toList.map ([·]), ?_, ?_⟩
  · simp [bracedPieces_of_not_braced h, text?, Function.comp_def]
  · rw [← List.flatMap_def, List.flatMap_singleton']

theorem shown_eq (piece : TemplatePiece) : text? (fun _ => some "x") piece = some (shown piece) := by
  cases piece <;> rfl

theorem flatten_eq_shownAll {pieces : List TemplatePiece} {texts : List (List Char)}
    (h : pieces.map (text? fun _ => some "x") = texts.map some) :
    texts.flatten = shownAll pieces := by
  have hshown : pieces.map (text? fun _ => some "x") = (pieces.map shown).map some := by
    simp [shown_eq]
  have htexts : texts = pieces.map shown :=
    (List.map_inj_right fun _ _ => Option.some.inj).1 (h.symm.trans hshown)
  rw [htexts, shownAll, List.flatMap_def]

end Replacing

/-- **References in braces are replaced, and nothing else**: that is what happens to a setting, whatever
variables are set, unless it has a brace behind a dollar sign and also a dollar sign outside of references
with another one or a name behind it. -/
theorem expand_replaces_iff (setting : String) :
    (bracedPieces setting.toList).flatMap source = setting.toList ∧
      ((∀ env, Replaces env setting (expand (m := Id) env setting).run) ↔
        ¬ (hasBraces setting.toList = true ∧ hasBareName (bracedPieces setting.toList) = true)) := by
  refine ⟨sources_bracedPieces setting.toList, fun hall ⟨hbraces, hbare⟩ => ?_, fun hnone env => ?_⟩
  · -- with all variables set alike, the text would have to be another one
    obtain ⟨texts, hrun, htexts⟩ | ⟨name, -, -, hname⟩ :=
      expand_braced_cases hbraces fun _ => some "x"
    · obtain ⟨meant, hmeant, htext⟩ := hrun ▸ hall fun _ => some "x"
      rw [String.toList_ofList, flatten_eq_shownAll htexts, flatten_eq_shownAll hmeant] at htext
      exact shownAll_ne setting.toList hbare htext
    · cases hname
  · cases hbraces : hasBraces setting.toList with
    | false =>
      rw [expand_of_not_braced _ hbraces]
      exact replaces_of_not_braced hbraces
    | true =>
      have hbare : hasBareName (bracedPieces setting.toList) = false :=
        Bool.eq_false_iff.2 fun h => hnone ⟨hbraces, h⟩
      have hpieces := templatePieces_eq_bracedPieces setting.toList hbare
      obtain ⟨texts, hrun, htexts⟩ | ⟨name, hrun, hname⟩ := expand_braced_cases hbraces env
      · rw [hrun]
        exact ⟨texts, hpieces ▸ htexts, String.toList_ofList⟩
      · rw [hrun, Replaces, ← hpieces]
        exact hname

/-- A setting with a reference in braces, and with a dollar sign in the path behind it. -/
def dollarPath : String := "https://$\x7bBP_HOST\x7d/$BP_PATH"

/-- Only the variable of the reference in braces is set. -/
def hostOnly (name : String) : Option String :=
  if name = "BP_HOST" then some "bp.example" else none

/-- The path is taken for a reference, and the setting refused, though the one reference in braces has a
value. -/
theorem dollarPath_refused :
    (expand (m := Id) hostOnly dollarPath).run = .error "BP_PATH" ∧
      bracedPieces dollarPath.toList = "https://".toList.map plain ++
        reference "BP_HOST" none :: "/$BP_PATH".toList.map plain ∧
      ¬ Replaces hostOnly dollarPath (expand (m := Id) hostOnly dollarPath).run := by
  have hread : templatePieces dollarPath.toList = "https://".toList.map plain ++
      [reference "BP_HOST" none, plain '/', reference "BP_PATH" none] := by decide +kernel
  have hrun : (expand (m := Id) hostOnly dollarPath).run = .error "BP_PATH" := by
    rw [run_expand (by decide +kernel), hread]
    rfl
  have hpieces : bracedPieces dollarPath.toList = "https://".toList.map plain ++
      reference "BP_HOST" none :: "/$BP_PATH".toList.map plain := by decide +kernel
  refine ⟨hrun, hpieces, fun h => ?_⟩
  rw [hrun, Replaces, hpieces] at h
  exact absurd h.1 (by decide)

end WikiPage.Config
