import WikiPage.Markdown.Tree
import WikiPage.Proofs.Underscores
import Mathlib.Tactic.MkIffOfInductiveProp
/-!
# Pages of one plain line

A line of letters, digits and a few other characters has no marks but underscores.  A page of one
such line that begins with a letter is a paragraph of running text.

* `lexesPlain`: the tokens of the line spell it out, and their runs are the underscores of the line.
* `resolve_of_isSimple`: such tokens are text and marks for emphasis, and nothing else.
* `read_plain`: the page is one paragraph with these tokens.
-/

namespace WikiPage.Markdown

/-! ## 1. Plain characters -/

/-- Whether a character is an underscore or no mark: an ASCII letter or digit, or one of a few
others. -/
def isPlain (c : Char) : Bool := c.isAlphanum || "-_/:.?=".toList.contains c

/-- What holds of every ASCII character may be tried out on each. -/
theorem forall_ascii {P : Char → Prop} (h : ∀ n : Fin 128, P (Char.ofNat n)) {c : Char}
    (hc : c.toNat < 128) : P c := by
  have := h ⟨c.toNat, hc⟩
  simpa only [Char.ofNat_toNat] using this

theorem toNat_lt_of_isAlphanum {c : Char} (h : c.isAlphanum = true) : c.toNat < 128 := by
  have hbound : ∀ {last : Char}, c.val ≤ last.val → last.toNat < 128 → c.toNat < 128 :=
    fun h hlast => Nat.lt_of_le_of_lt (UInt32.le_iff_toNat_le.1 h) hlast
  rcases Bool.or_eq_true_iff.1 h with h | hdigit
  · rcases Bool.or_eq_true_iff.1 h with hupper | hlower
    · exact @hbound 'Z' (of_decide_eq_true hupper).2 (by decide)
    · exact @hbound 'z' (of_decide_eq_true (Bool.and_eq_true_iff.1 hlower).2) (by decide)
  · exact @hbound '9' (of_decide_eq_true (Bool.and_eq_true_iff.1 hdigit).2) (by decide)

theorem toNat_lt_of_isPlain {c : Char} (h : isPlain c = true) : c.toNat < 128 := by
  rcases Bool.or_eq_true_iff.1 h with h | h
  · exact toNat_lt_of_isAlphanum h
  · have : ∀ x ∈ "-_/:.?=".toList, x.toNat < 128 := by simp
    exact this c (by simpa using h)

/-- What is known of a plain character. -/
@[mk_iff]
structure Plain (c : Char) : Prop where
  size : c.utf8Size = 1
  lineEnd : isLineEnd c = false
  lineBlank : isLineBlank c = false
  blank : Unicode.isBlank c = false
  punctuation : Unicode.isPunctuation c = !c.isAlphanum
  backslash : c ≠ '\\'

theorem plain_of_isPlain {c : Char} (h : isPlain c = true) : Plain c := by
  refine forall_ascii (P := fun c => isPlain c = true → Plain c) ?_ (toNat_lt_of_isPlain h) h
  simp only [plain_iff]
  decide

/-! ## 2. Cursors in a plain line -/

open Text (byteLength)

theorem Cursor.upTo_append (text rest : List Char) : ∀ offset : Nat,
    (Cursor.mk offset (text ++ rest)).upTo (offset + byteLength text) = text := by
  induction text with
  | nil =>
    intro offset
    cases rest with
    | nil => rfl
    | cons c rest => simp [upTo, upToFrom, byteLength]
  | cons c text ih =>
    intro offset
    have hpos : 0 < c.utf8Size := c.utf8Size_pos
    have := ih (offset + c.utf8Size)
    rw [Nat.add_assoc] at this
    simp only [upTo, List.cons_append, upToFrom, byteLength] at this ⊢
    rw [if_pos (by omega), this]

theorem Cursor.skip_replicate (m : Nat) (rest : List Char) : ∀ offset : Nat,
    (Cursor.mk offset (List.replicate m '_' ++ rest)).skip m = ⟨offset + m, rest⟩ := by
  induction m with
  | zero => exact fun offset => rfl
  | succ m ih =>
    intro offset
    exact (ih (offset + 1)).trans (by rw [Nat.add_assoc, Nat.add_comm 1])

theorem byteLength_replicate (m : Nat) : byteLength (List.replicate m '_') = m := by
  induction m with
  | zero => rfl
  | succ m ih =>
    rw [List.replicate_succ, byteLength, ih, Nat.add_comm]
    rfl

/-! ## 3. Tokens of a plain line -/

/-- The item that a token of text or a run of marks becomes. -/
def Token.item (t : Token) : Item :=
  match t.kind with
  | .emphasis mark count opens closes => .run ⟨mark, count, opens, closes, t.start⟩
  | _ => .done (.text t.span (String.ofList t.source))

/-- Whether a token is text or a run of marks for emphasis, and not empty. -/
structure Token.IsSimple (t : Token) : Prop where
  kind : t.isText = true ∨ ∃ mark count opens closes, t.kind = .emphasis mark count opens closes
  stop : 0 < t.stop

/-- The text before a place as a token, if there is any. -/
def textTokens (start : Nat) (text rest : List Char) : List Token :=
  if text = [] then [] else [⟨.text false, ⟨start, text ++ rest⟩, start + byteLength text⟩]

theorem byteLength_pos {text : List Char} (h : text ≠ []) : 0 < byteLength text := by
  cases text with
  | nil => exact absurd rfl h
  | cons c rest => exact Nat.lt_of_lt_of_le c.utf8Size_pos (Nat.le_add_right ..)

theorem isSimple_of_mem_textTokens {start : Nat} {text rest : List Char} {t : Token}
    (h : t ∈ textTokens start text rest) : t.IsSimple := by
  unfold textTokens at h
  split at h
  · cases h
  · rename_i hne
    obtain rfl := List.mem_singleton.1 h
    exact ⟨.inl rfl, Nat.lt_of_lt_of_le (byteLength_pos hne) (Nat.le_add_left ..)⟩

/-- Text before a place comes first in what is spelled. -/
theorem Spells.of_textTokens {start : Nat} {text rest : List Char} {items : List Item}
    {runs : List Underscores} (h : Spells (start + byteLength text) rest items runs) :
    Spells start (text ++ rest) ((textTokens start text rest).map Token.item ++ items) runs := by
  unfold textTokens
  split
  · rename_i hempty
    rw [hempty] at h ⊢
    exact h
  · rename_i hne
    have hitem : Token.item ⟨.text false, ⟨start, text ++ rest⟩, start + byteLength text⟩ =
        .done (.text ⟨start, start + byteLength text⟩ (String.ofList text)) := by
      simp only [Token.item, Token.span, Token.start, Token.source, Cursor.upTo_append]
    rw [List.map_singleton, hitem]
    exact .text hne h

/-- What is known between two characters of a plain line: the text that is no token yet, and that it
continues none. -/
structure LexerState.Reads (s : LexerState) (start : Nat) (text rest : List Char) : Prop where
  pending : s.pending = ⟨start, text ++ rest⟩
  blanks : s.blanks = 0
  escaped : s.escaped = false
  fresh : ∀ t ∈ s.tokens.head?, t.isText = false

variable {s : LexerState} {start : Nat} {text rest : List Char} {ext : Extensions}

/-- The pending text becomes a token. -/
theorem LexerState.Reads.tokens_flush (h : s.Reads start text rest) :
    (s.flush (start + byteLength text)).tokens = textTokens start text rest ++ s.tokens := by
  obtain ⟨hpending, -, hescaped, hfresh⟩ := h
  obtain ⟨tokens, braces, pending, escaped, before, blanks, backslashes⟩ := s
  subst hpending hescaped
  simp only [LexerState.flush, Token.appendText, textTokens]
  by_cases htext : text = []
  · simp [htext, byteLength]
  · rw [if_pos (Nat.lt_add_of_pos_right (byteLength_pos htext)), if_neg htext]
    cases tokens with
    | nil => rfl
    | cons last earlier => simp [hfresh last rfl]

/-- A character that is no underscore is left to the text. -/
theorem lexChar_plain {mode : LexerMode} {c : Char} (hc : isPlain c = true) (hne : c ≠ '_')
    (at_ : Cursor) : lexChar mode c rest at_ s = (s, 0) := by
  unfold lexChar
  split
  -- a character with a case of its own is an underscore or no plain one
  all_goals first
    | exact absurd rfl hne
    | exact absurd hc (by decide)
    | rfl

/-- A step over a plain character. -/
theorem lexFrom_cons {mode : LexerMode} (hcell : mode.cell = false) (hlimit : mode.limit = none)
    {c : Char} (hc : isPlain c = true) (offset : Nat) :
    lexFrom mode (c :: rest) offset 0 s =
      lexFrom mode rest (offset + 1) (lexChar mode c rest ⟨offset, c :: rest⟩ s).2
        ((lexChar mode c rest ⟨offset, c :: rest⟩ s).1.pass c) := by
  have hplain := plain_of_isPlain hc
  rw [lexFrom]
  simp [hcell, hlimit, hplain.lineEnd, hplain.size]

/-- The other underscores of a run are passed over. -/
theorem lexFrom_replicate {mode : LexerMode} (hlimit : mode.limit = none) (hs : s.pass '_' = s)
    (m : Nat) : ∀ offset, lexFrom mode (List.replicate m '_' ++ rest) offset m s =
      lexFrom mode rest (offset + m) 0 s := by
  induction m with
  | zero => exact fun offset => rfl
  | succ m ih =>
    intro offset
    rw [List.replicate_succ, List.cons_append, lexFrom]
    simp only [hlimit, hs]
    rw [show offset + '_'.utf8Size = offset + 1 from rfl]
    refine (ih (offset + 1)).trans ?_
    rw [Nat.add_assoc, Nat.add_comm 1]

/-- A run of underscores opens and closes as what stands beside it says. -/
theorem runOpens_underscore {x : Char} (hx : isPlain x = true) {after : Option Char}
    (hafter : ∀ c ∈ after, isPlain c = true) (count : Nat) :
    runOpens '_' count (some x) after false = (Underscores.between x.isAlphanum count after).opens ∧
      runCloses '_' count (some x) after false =
        (Underscores.between x.isAlphanum count after).closes := by
  have hx := plain_of_isPlain hx
  cases after with
  | none => simp [runOpens, runCloses, Underscores.between, hx.blank]
  | some next =>
    have hnext := plain_of_isPlain (hafter next rfl)
    simp [runOpens, runCloses, Underscores.between, hx.blank, hnext.blank, hx.punctuation,
      hnext.punctuation]

theorem takeWhile_underscores {m : Nat} (hrest : rest.head? ≠ some '_') :
    (List.replicate m '_' ++ rest).takeWhile (· == '_') = List.replicate m '_' := by
  have hall : ∀ c ∈ List.replicate m '_', (c == '_') = true := fun c hc => by
    rw [List.eq_of_mem_replicate hc]
    rfl
  have hnone : rest.takeWhile (· == '_') = [] := by
    cases rest with
    | nil => rfl
    | cons c rest =>
      have hc : c ≠ '_' := fun h => hrest (by rw [h]; rfl)
      simp [hc]
  rw [List.takeWhile_append_of_pos hall, hnone, List.append_nil]

/-- How a run of underscores is lexed that something else than an underscore follows. -/
theorem lexChar_underscore {m : Nat} (hrest : rest.head? ≠ some '_') {x : Char}
    (hx : isPlain x = true) (hplain : ∀ c ∈ rest, isPlain c = true) (hbefore : s.before = some x)
    (offset : Nat) :
    lexChar ext.lexer '_' (List.replicate m '_' ++ rest)
        ⟨offset, '_' :: (List.replicate m '_' ++ rest)⟩ s =
      (if (Underscores.between x.isAlphanum (m + 1) rest.head?).marks then
        s.emit (.emphasis '_' (m + 1) (Underscores.between x.isAlphanum (m + 1) rest.head?).opens
            (Underscores.between x.isAlphanum (m + 1) rest.head?).closes)
          ⟨offset, '_' :: (List.replicate m '_' ++ rest)⟩ ⟨offset + (m + 1), rest⟩
      else s, m) := by
  obtain ⟨hopens, hcloses⟩ := runOpens_underscore hx
    (fun c hc => hplain c (List.mem_of_mem_head? hc)) (m + 1)
  have hskip : (Cursor.mk offset ('_' :: (List.replicate m '_' ++ rest))).skip (m + 1) =
      ⟨offset + (m + 1), rest⟩ := Cursor.skip_replicate (m + 1) rest offset
  show lexChar.mark ext.lexer '_' _ _ s = _
  unfold lexChar.mark
  rw [takeWhile_underscores hrest, List.length_replicate, hbefore, Nat.add_comm 1 m]
  dsimp only
  rw [Nat.add_sub_cancel, List.drop_left' List.length_replicate, hskip,
    show ext.lexer.cell = false from rfl, hopens, hcloses]
  generalize Underscores.between x.isAlphanum (m + 1) rest.head? = u
  cases hmarks : u.marks with
  | false => rw [Underscores.marks] at hmarks; simp [hmarks]
  | true => rw [Underscores.marks] at hmarks; simp [hmarks]

section Emit

variable {kind : TokenKind} {place after : Cursor}

/-- A token that is no text comes after the text before it. -/
theorem LexerState.Reads.tokens_emit (hs : s.Reads start text rest)
    (hplace : place.offset = start + byteLength text) : (s.emit kind place after).tokens =
      ⟨kind, place, after.offset⟩ :: (textTokens start text rest ++ s.tokens) := by
  have htokens := hs.tokens_flush
  rw [← hplace] at htokens
  simp only [LexerState.emit, htokens]

/-- The text begins anew after a run that is lexed as marks. -/
theorem LexerState.reads_emit (s : LexerState) (hkind : ∀ escaped, kind ≠ .text escaped) :
    ((s.emit kind place after).pass '_').Reads after.offset [] after.rest := by
  refine ⟨rfl, rfl, rfl, fun t ht => ?_⟩
  obtain rfl := Option.some.inj ht
  cases kind with
  | text escaped => exact absurd rfl (hkind escaped)
  | _ => rfl

end Emit

/-- A line that was lexed from a state on, `text` being the text that was no token yet and `rest` what
was left of the line: its further tokens spell out both. -/
def LexerState.LexesTo (s : LexerState) (start : Nat) (text rest : List Char)
    (runs : List Underscores) (line : LexedLine) : Prop :=
  ∃ tokens, line = ⟨tokens ++ s.tokens, s.braces, ⟨start + byteLength (text ++ rest), []⟩, none⟩ ∧
    (∀ t ∈ tokens, t.IsSimple) ∧
      Spells start (text ++ rest) (tokens.reverse.map Token.item) runs

theorem reverse_textTokens : (textTokens start text rest).reverse = textTokens start text rest := by
  unfold textTokens
  split <;> rfl

/-- At the end of the line the text becomes a token. -/
theorem LexerState.Reads.finish (hs : s.Reads start text []) :
    s.LexesTo start text [] [] (s.finish ⟨start + byteLength text, []⟩) := by
  have hstop : max s.pending.offset (start + byteLength text - s.blanks) =
      start + byteLength text := by
    rw [hs.pending, hs.blanks]
    exact Nat.max_eq_right (Nat.le_add_right ..)
  refine ⟨textTokens start text [], ?_, fun t => isSimple_of_mem_textTokens, ?_⟩
  · unfold LexerState.finish
    dsimp only
    rw [hstop, hs.tokens_flush, List.append_nil]
    rfl
  · rw [reverse_textTokens, ← List.append_nil (List.map _ _)]
    exact .of_textTokens (.nil _)

/-- A character of the text is passed. -/
theorem LexerState.Reads.pass {c : Char} (hs : s.Reads start text (c :: rest))
    (hc : isPlain c = true) : (s.pass c).Reads start (text ++ [c]) rest := by
  refine ⟨?_, ?_, hs.escaped, hs.fresh⟩
  · rw [List.append_assoc]
    exact hs.pending
  · simp [LexerState.pass, (plain_of_isPlain hc).lineBlank]

/-- Underscores that are no marks are passed. -/
theorem LexerState.Reads.pass_underscores {count : Nat}
    (hs : s.Reads start text (List.replicate count '_' ++ rest)) :
    (s.pass '_').Reads start (text ++ List.replicate count '_') rest := by
  refine ⟨?_, rfl, hs.escaped, hs.fresh⟩
  rw [List.append_assoc]
  exact hs.pending

/-- A text is a number of underscores and what follows them. -/
theorem exists_replicate (cs : List Char) : ∃ m rest, cs = List.replicate m '_' ++ rest ∧
    rest.head? ≠ some '_' := by
  induction cs with
  | nil => exact ⟨0, [], rfl, by simp⟩
  | cons c cs ih =>
    by_cases hc : c = '_'
    · obtain ⟨m, rest, rfl, hrest⟩ := ih
      exact ⟨m + 1, rest, by rw [hc]; rfl, hrest⟩
    · exact ⟨0, c :: cs, rfl, fun h => hc (Option.some.inj h)⟩

/-- Text that is passed is spelled like the text before it. -/
theorem LexerState.LexesTo.of_pass {c : Char} {passed : List Char} {runs : List Underscores}
    {line : LexedLine} (h : (s.pass c).LexesTo start (text ++ passed) rest runs line) :
    s.LexesTo start text (passed ++ rest) runs line := by
  rw [LexesTo, ← List.append_assoc]
  exact h

/-- A run that is lexed as marks is spelled between the text before it and the rest of the line. -/
theorem LexerState.LexesTo.of_emit {u : Underscores} {runs : List Underscores} {line : LexedLine}
    (hs : s.Reads start text (List.replicate u.count '_' ++ rest)) (hcount : 0 < u.count)
    (h : ((s.emit (.emphasis '_' u.count u.opens u.closes)
        ⟨start + byteLength text, List.replicate u.count '_' ++ rest⟩
        ⟨start + byteLength text + u.count, rest⟩).pass '_').LexesTo
      (start + byteLength text + u.count) [] rest runs line) :
    s.LexesTo start text (List.replicate u.count '_' ++ rest) (u :: runs) line := by
  obtain ⟨tokens, rfl, hsimple, hspells⟩ := h
  have htokens := @Reads.tokens_emit s start text _ (.emphasis '_' u.count u.opens u.closes)
    ⟨start + byteLength text, List.replicate u.count '_' ++ rest⟩
    ⟨start + byteLength text + u.count, rest⟩ hs rfl
  have hbytes : start + byteLength text + u.count + byteLength ([] ++ rest) =
      start + byteLength (text ++ (List.replicate u.count '_' ++ rest)) := by
    simp only [Text.byteLength_append, byteLength_replicate, byteLength]
    omega
  refine ⟨tokens ++ ⟨.emphasis '_' u.count u.opens u.closes,
    ⟨start + byteLength text, List.replicate u.count '_' ++ rest⟩,
    start + byteLength text + u.count⟩ :: textTokens start text (List.replicate u.count '_' ++ rest),
    ?_, ?_, ?_⟩
  · rw [hbytes, List.append_assoc, List.cons_append, ← htokens]
    rfl
  · intro t ht
    rcases List.mem_append.1 ht with ht | ht
    · exact hsimple t ht
    · rcases List.mem_cons.1 ht with rfl | ht
      · exact ⟨.inr ⟨_, _, _, _, rfl⟩, Nat.lt_of_lt_of_le hcount (Nat.le_add_left ..)⟩
      · exact isSimple_of_mem_textTokens ht
  · rw [List.reverse_append, List.reverse_cons, reverse_textTokens, List.append_assoc,
      List.map_append]
    exact .of_textTokens (.run hcount hspells)

/-- Whether a rest of a line is lexed as it should be, whatever plain character stands before it: its
tokens spell it out, and their runs are those of the rest. -/
structure LexesPlain (ext : Extensions) (rest : List Char) : Prop where
  lexes : ∀ {s : LexerState} {start : Nat} {text : List Char} {x : Char}, s.Reads start text rest →
    s.before = some x → isPlain x = true →
      s.LexesTo start text rest ((underscores x.isAlphanum 0 rest).filter Underscores.marks)
        (lexFrom ext.lexer rest (start + byteLength text) 0 s)

/-- A character that is no underscore is one more character of the text. -/
theorem LexesPlain.char (h : LexesPlain ext rest) {c : Char} (hc : isPlain c = true) (hne : c ≠ '_') :
    LexesPlain ext (c :: rest) := by
  refine ⟨@fun s start text x hs hbefore hx => ?_⟩
  have hrest := h.lexes (hs.pass hc) rfl hc
  rw [Text.byteLength_append, byteLength, (plain_of_isPlain hc).size] at hrest
  have hruns : underscores x.isAlphanum 0 (c :: rest) = underscores c.isAlphanum 0 rest := by
    simp [underscores, hne]
  rw [lexFrom_cons rfl rfl hc, lexChar_plain hc hne, hruns]
  exact hrest.of_pass

/-- A run of underscores is a token, after which the text begins anew, or more of the text. -/
theorem LexesPlain.run (h : LexesPlain ext rest) (hplain : ∀ c ∈ rest, isPlain c = true)
    (hhead : rest.head? ≠ some '_') (m : Nat) :
    LexesPlain ext ('_' :: (List.replicate m '_' ++ rest)) := by
  refine ⟨@fun s start text x hs hbefore hx => ?_⟩
  rw [lexFrom_cons rfl rfl rfl, lexChar_underscore hhead hx hplain hbefore,
    underscores_cons_run _ _ hhead]
  dsimp only
  rw [lexFrom_replicate rfl rfl]
  obtain ⟨u, hu⟩ : ∃ u, u = Underscores.between x.isAlphanum (m + 1) rest.head? := ⟨_, rfl⟩
  have hcount : u.count = m + 1 := by rw [hu]; rfl
  have hrun : '_' :: (List.replicate m '_' ++ rest) = List.replicate u.count '_' ++ rest := by
    rw [hcount]
    rfl
  have hoffset : start + byteLength text + 1 + m = start + byteLength text + u.count := by omega
  rw [hrun] at hs
  rw [← hu, ← hcount, hrun, hoffset]
  cases hmarks : u.marks with
  | true =>
    have hreads := @LexerState.reads_emit (.emphasis '_' u.count u.opens u.closes)
      ⟨start + byteLength text, List.replicate u.count '_' ++ rest⟩
      ⟨start + byteLength text + u.count, rest⟩ s (fun _ h => by cases h)
    rw [List.filter_cons_of_pos hmarks]
    exact .of_emit hs (by omega) (h.lexes hreads rfl rfl)
  | false =>
    have hrest := h.lexes hs.pass_underscores rfl rfl
    rw [Text.byteLength_append, byteLength_replicate, ← Nat.add_assoc] at hrest
    rw [List.filter_cons_of_neg (by simp [hmarks])]
    exact hrest.of_pass

/-- **Every rest of a plain line** is lexed as it should be. -/
theorem lexesPlain : ∀ (n : Nat) {cs : List Char}, cs.length = n → (∀ c ∈ cs, isPlain c = true) →
    LexesPlain ext cs := by
  intro n
  induction n using Nat.strongRecOn with
  | ind n ih =>
    intro cs hn hcs
    cases cs with
    | nil => exact ⟨fun hs _ _ => hs.finish⟩
    | cons c rest =>
      obtain ⟨hc, hrest⟩ := List.forall_mem_cons.1 hcs
      rw [List.length_cons] at hn
      by_cases hne : c = '_'
      · -- the whole run is one step
        obtain ⟨m, rest, rfl, hhead⟩ := exists_replicate rest
        have hplain := (List.forall_mem_append.1 hrest).2
        have hlt : rest.length < n := by
          rw [List.length_append] at hn
          omega
        rw [hne]
        exact (ih _ hlt rfl hplain).run hplain hhead m
      · exact (ih _ (by omega) rfl hrest).char hc hne

/-! ## 4. The running text of a plain line -/

namespace TextContext

variable {x : TextContext}

/-- A simple token becomes its item. -/
theorem take_of_isSimple {t : Token} (ht : t.IsSimple) (later : List Token) (s : TextState) :
    x.take t later s = { s with items := t.item :: s.items } := by
  obtain ⟨htext | ⟨mark, count, opens, closes, hkind⟩, -⟩ := ht
  · unfold Token.isText at htext
    unfold take Token.item
    split at htext
    · rename_i hkind
      rw [hkind]
      rfl
    · cases htext
  · unfold take Token.item
    rw [hkind]

/-- Simple tokens become their items one after the other. -/
theorem takeAll_of_isSimple : ∀ {tokens : List Token}, (∀ t ∈ tokens, t.IsSimple) →
    ∀ {s : TextState}, s.taken = 0 →
      x.takeAll tokens s = { s with items := (tokens.map Token.item).reverse ++ s.items }
  | [], _, _, _ => rfl
  | t :: later, h, s, hs => by
    obtain ⟨ht, hlater⟩ := List.forall_mem_cons.1 h
    have hstop : ¬ t.stop ≤ s.taken := by rw [hs]; exact Nat.not_le_of_gt ht.stop
    have hstart : ¬ t.start < s.taken := by rw [hs]; exact Nat.not_lt_zero _
    rw [takeAll, if_neg hstop, if_neg hstart]
    dsimp only
    rw [take_of_isSimple ht, List.map_cons, List.reverse_cons, List.append_assoc]
    exact takeAll_of_isSimple hlater hs

/-- **Running text of simple tokens** has no marks but those for emphasis. -/
theorem resolve_of_isSimple (h : ∀ t ∈ x.text.tokens, t.IsSimple) :
    x.resolve = Emphasis.resolve (x.text.tokens.map Token.item) := by
  unfold resolve
  rw [takeAll_of_isSimple h rfl]
  simp [TextState.flatten]

end TextContext

/-! ## 5. A page of one plain line -/

/-- Nothing is a pipe or the end of a line in a plain line. -/
theorem pipesOfLine_plain : ∀ {cs : List Char}, (∀ c ∈ cs, isPlain c = true) →
    ∀ (offset : Nat) (before : Option Char) (count : Nat) (last : Option Cursor),
      pipesOfLine cs offset before count last = none
  | [], _, _, _, _, _ => rfl
  | c :: rest, h, offset, before, count, last => by
    obtain ⟨hc, hrest⟩ := List.forall_mem_cons.1 h
    have hpipe : c ≠ '|' := fun h => by subst h; exact absurd hc (by decide)
    rw [pipesOfLine, (plain_of_isPlain hc).lineEnd]
    simp [hpipe, pipesOfLine_plain hrest]

/-- The tokens of a plain line that begins with a letter. -/
theorem lexLine_plain (ext : Extensions) {rest : List Char} (hrest : ∀ c ∈ rest, isPlain c = true) :
    ∃ tokens, lexLine ext.lexer ⟨0, 'h' :: rest⟩ [] {} =
        ⟨tokens, {}, ⟨byteLength ('h' :: rest), []⟩, none⟩ ∧
      (∀ t ∈ tokens, t.IsSimple) ∧
        Spells 0 ('h' :: rest) (tokens.reverse.map Token.item)
          ((underscores true 0 rest).filter Underscores.marks) := by
  obtain ⟨s, hs⟩ : ∃ s : LexerState, s = ⟨[], {}, ⟨0, 'h' :: rest⟩, false, none, 0, 0⟩ := ⟨_, rfl⟩
  have hreads : (s.pass 'h').Reads 0 ['h'] rest := by
    subst hs
    exact ⟨rfl, rfl, rfl, fun t ht => by cases ht⟩
  obtain ⟨tokens, hline, hsimple, hspells⟩ :=
    (lexesPlain _ rfl hrest).lexes hreads rfl rfl
  refine ⟨tokens, ?_, hsimple, hspells⟩
  show lexFrom ext.lexer ('h' :: rest) 0 0 ⟨[], {}, ⟨0, 'h' :: rest⟩, false, none, 0, 0⟩ = _
  rw [← hs, lexFrom_cons rfl rfl rfl, lexChar_plain rfl (by decide)]
  subst hs
  refine hline.trans ?_
  rw [Nat.zero_add, show LexerState.tokens _ = [] from rfl, List.append_nil]
  rfl

/-- A line that begins with a letter begins a paragraph at the top of a page. -/
theorem readBlock_plain (ext : Extensions) (rest : List Char) :
    readBlock ext {} ⟨0, 'h' :: rest⟩ =
      (PageState.add {} (paragraph ext [] none ⟨0, 'h' :: rest⟩).1,
        (paragraph ext [] none ⟨0, 'h' :: rest⟩).2) := by
  obtain ⟨gfm, math⟩ := ext
  cases gfm <;> rfl

/-- A plain line is no table, and the paragraph that it begins ends with it. -/
theorem paragraph_plain (ext : Extensions) {rest : List Char} (hrest : ∀ c ∈ rest, isPlain c = true) :
    ∃ tokens, paragraph ext [] none ⟨0, 'h' :: rest⟩ =
        (.paragraph ⟨0, byteLength ('h' :: rest)⟩ false none
          ⟨tokens, byteLength ('h' :: rest), [], false⟩, ⟨byteLength ('h' :: rest), []⟩) ∧
      (∀ t ∈ tokens, t.IsSimple) ∧
        Spells 0 ('h' :: rest) (tokens.map Token.item)
          ((underscores true 0 rest).filter Underscores.marks) := by
  obtain ⟨tokens, hline, hsimple, hspells⟩ := lexLine_plain ext hrest
  refine ⟨tokens.reverse, ?_, fun t ht => hsimple t (List.mem_reverse.1 ht), hspells⟩
  have hcolumns : headingColumns? ⟨0, 'h' :: rest⟩ = none := by
    rw [headingColumns?, pipesOfLine_plain (List.forall_mem_cons.2 ⟨rfl, hrest⟩)]
    rfl
  have htable : table? ext [] ⟨0, 'h' :: rest⟩ = none := by
    rw [table?, tableStart?, hcolumns]
    split <;> rfl
  have hlines : paragraphLines ext [] (('h' :: rest).length + 1) ⟨0, 'h' :: rest⟩ [] {} =
      (⟨tokens, ⟨byteLength ('h' :: rest), []⟩, none⟩, false) := by
    rw [paragraphLines, hline]
    rfl
  simp only [paragraph, htable, hlines]

/-- **A page of one plain line** is one paragraph. -/
theorem read_plain (ext : Extensions) {source : String} {rest : List Char}
    (hsource : source.toList = 'h' :: rest) (hrest : ∀ c ∈ rest, isPlain c = true) :
    ∃ tokens, Page.read ext source = ⟨[.paragraph ⟨0, byteLength source.toList⟩ false none
          ⟨tokens, byteLength source.toList, [], false⟩], {}⟩ ∧
      (∀ t ∈ tokens, t.IsSimple) ∧
        Spells 0 source.toList (tokens.map Token.item)
          ((underscores true 0 rest).filter Underscores.marks) := by
  obtain ⟨tokens, hparagraph, hsimple, hspells⟩ := paragraph_plain ext hrest
  refine ⟨tokens, ?_, hsimple, by rw [hsource]; exact hspells⟩
  have hblocks : readBlocks ext (('h' :: rest).length + 1) {} ⟨0, 'h' :: rest⟩ =
      (PageState.add {} (paragraph ext [] none ⟨0, 'h' :: rest⟩).1,
        (paragraph ext [] none ⟨0, 'h' :: rest⟩).2) := by
    rw [readBlocks, readBlock_plain, hparagraph]
    rfl
  rw [hsource]
  simp only [Page.read, Cursor.ofString, hsource, hblocks, hparagraph]
  rfl

end WikiPage.Markdown
