import WikiPage.Proofs.PlainLines
import WikiPage.Proofs.Spans
import WikiPage.Proofs.VideoIds
/-!
# Addresses of videos

An address of a video is one of two beginnings followed by the id of the video.  As a text it is
one address from its first character to its last one, and the pattern of its provider finds all of
its id and nothing else.  Further parameters may stand behind the id, and the pattern looks for a mark
in these as well.

* `VideoId` and `VideoForm` are the ids and the beginnings, `VideoForm.address` the addresses.
* `capture?_append`: the pattern finds the id, or the last one in the parameters; `frameAddress?_params`
  says when this is the same.
* `cuts_address`: the address is found as a whole.
-/

namespace WikiPage

/-! ## 1. Ids and addresses -/

/-- Whether a character may stand in the id of a video: an ASCII letter or digit, a hyphen or an
underscore. -/
def isVideoIdChar (c : Char) : Bool := c.isAlphanum || c == '-' || c == '_'

/-- The id of a video. -/
structure VideoId where
  chars : List Char
  nonempty : chars ≠ []
  allowed : ∀ c ∈ chars, isVideoIdChar c = true

/-- How addresses of videos begin: on the short host, or on the page where a video is watched. -/
inductive VideoForm where
  | short
  | watch
  deriving DecidableEq, Repr, Inhabited

/-- What stands before the id. -/
def VideoForm.start : VideoForm → String
  | short => "https://youtu.be/"
  | watch => "https://www.youtube.com/watch?v="

/-- The address of a video. -/
def VideoForm.address (form : VideoForm) (id : VideoId) : String :=
  form.start ++ String.ofList id.chars

theorem VideoForm.toList_address (form : VideoForm) (id : VideoId) :
    (form.address id).toList = form.start.toList ++ id.chars := by
  rw [address, String.toList_append, String.toList_ofList]

theorem toNat_lt_of_isVideoIdChar {c : Char} (hc : isVideoIdChar c = true) : c.toNat < 128 := by
  simp only [isVideoIdChar, Bool.or_eq_true, beq_iff_eq] at hc
  obtain (h | rfl) | rfl := hc
  · exact Markdown.toNat_lt_of_isAlphanum h
  · decide
  · decide

/-- What holds of these few characters may be tried out on each. -/
theorem forall_videoIdChar {P : Char → Prop}
    (h : ∀ n : Fin 128, isVideoIdChar (Char.ofNat n) = true → P (Char.ofNat n)) {c : Char}
    (hc : isVideoIdChar c = true) : P c :=
  Markdown.forall_ascii (P := fun c => isVideoIdChar c = true → P c) h
    (toNat_lt_of_isVideoIdChar hc) hc

/-- What stands between the host and the id. -/
def VideoForm.path : VideoForm → String
  | .short => "/"
  | .watch => ".com/watch?v="

theorem VideoForm.exists_host (form : VideoForm) :
    ∃ host ∈ EmbedProvider.videoHosts, form.start = host ++ form.path := by
  cases form with
  | short => exact ⟨"https://youtu.be", by decide, rfl⟩
  | watch => exact ⟨"https://www.youtube", by decide, rfl⟩

/-! ## 2. The pattern finds the id -/

namespace EmbedProvider

open Text

variable {id : VideoId}

theorem isIdChar_of_isVideoIdChar {c : Char} (hc : isVideoIdChar c = true) : isIdChar c = true :=
  forall_videoIdChar (P := (isIdChar · = true)) (by decide) hc

/-- A character that is no slash and has no equals sign behind it is no mark. -/
theorem idBehind?_eq_none {c : Char} {text : List Char} (hc : c ≠ '/')
    (htext : ∀ x ∈ text.head?, x ≠ '=') : idBehind? (c :: text) = none := by
  refine Option.eq_none_iff_forall_ne_some.2 fun found h => ?_
  obtain ⟨mark, hmark, after, heq, -⟩ := idBehind?_eq_some_iff.1 h
  obtain rfl | rfl : mark = "/".toList ∨ mark = "v=".toList := by simpa using hmark
  · exact hc (List.cons.inj heq).1
  · obtain ⟨-, rfl⟩ := List.cons.inj heq
    exact htext '=' rfl rfl

/-- In an id there is no mark. -/
theorem lastId?_append {cs text : List Char} (hcs : ∀ c ∈ cs, isVideoIdChar c = true)
    (htext : ∀ x ∈ text.head?, x ≠ '=') : lastId? (cs ++ text) = lastId? text := by
  have hne : ∀ {c x : Char}, isVideoIdChar c = true → isVideoIdChar x = false → c ≠ x := by
    rintro c x hc hx rfl
    rw [hx] at hc
    cases hc
  induction cs with
  | nil => rfl
  | cons c cs ih =>
    obtain ⟨hc, hcs⟩ := List.forall_mem_cons.1 hcs
    have hnone : idBehind? (c :: (cs ++ text)) = none := by
      refine idBehind?_eq_none (hne hc (by decide)) fun x hx => ?_
      cases cs with
      | nil => exact htext x hx
      | cons d cs =>
        obtain rfl : d = x := Option.some.inj hx
        exact hne (hcs d List.mem_cons_self) (by decide)
    rw [List.cons_append, lastId?, lastOnLine_cons (hne hc (by decide)), hnone, Option.or_none]
    exact ih hcs

/-- All of an id is found where it stands, up to the parameters behind it. -/
theorem idAt?_append (id : VideoId) {params : List Char} (hparams : ∀ x ∈ params.head?, x = '&') :
    idAt? (id.chars ++ params) = some id.chars := by
  have hallowed : ∀ c ∈ id.chars, isIdChar c = true := fun c hc =>
    isIdChar_of_isVideoIdChar (id.allowed c hc)
  obtain ⟨c, rest, hchars⟩ := List.exists_cons_of_ne_nil id.nonempty
  refine idAt?_eq_some_iff.2 ⟨⟨c, by rw [hchars]; rfl, hallowed c (hchars ▸ List.mem_cons_self)⟩, ?_⟩
  have hnone : params.takeWhile isIdChar = [] := by
    cases params with
    | nil => rfl
    | cons x params =>
      obtain rfl := hparams x rfl
      rfl
  rw [List.takeWhile_append_of_pos hallowed, hnone, List.append_nil]

/-- **The last id** is that of the address, if there is none in the parameters behind it. -/
theorem lastId?_path (form : VideoForm) (id : VideoId) {params : List Char}
    (hparams : ∀ x ∈ params.head?, x = '&') :
    lastId? (form.path.toList ++ (id.chars ++ params)) =
      some ((lastId? params).getD id.chars) := by
  have hid := idAt?_append id hparams
  have hlater : lastId? (id.chars ++ params) = lastId? params :=
    lastId?_append id.allowed fun x hx => hparams x hx ▸ by decide
  have hor : (lastId? params).or (some id.chars) = some ((lastId? params).getD id.chars) := by
    cases lastId? params <;> rfl
  cases form with
  | short =>
    show lastId? ('/' :: (id.chars ++ params)) = _
    have hmark : idBehind? ('/' :: (id.chars ++ params)) = some id.chars := by
      simpa [idBehind?, behind] using hid
    rw [lastId?, lastOnLine_cons (by decide), hmark]
    exact (congrArg (Option.or · (some id.chars)) hlater).trans hor
  | watch =>
    show lastId? (".com/watch?".toList ++ ('v' :: '=' :: (id.chars ++ params))) = _
    have hmark : idBehind? ('v' :: '=' :: (id.chars ++ params)) = some id.chars := by
      simp [idBehind?, behind, hid]
    have hequals : lastId? ('=' :: (id.chars ++ params)) = lastId? params := by
      have hnone : idBehind? ('=' :: (id.chars ++ params)) = none := by
        simp [idBehind?, behind]
      rw [lastId?, lastOnLine_cons (by decide), hnone, Option.or_none]
      exact hlater
    refine lastOnLine_append (by decide) ?_
    rw [lastOnLine_cons (by decide), hmark]
    exact (congrArg (Option.or · (some id.chars)) hequals).trans hor

/-- **The pattern finds the id** of an address, if it finds none in the parameters behind it. -/
theorem capture?_append (form : VideoForm) (id : VideoId) {params : String}
    (hparams : ∀ x ∈ params.toList.head?, x = '&') :
    youtubePattern.capture? (form.address id ++ params) =
      some (String.ofList ((lastId? params.toList).getD id.chars)) := by
  obtain ⟨host, hhost, hstart⟩ := form.exists_host
  rw [capture?_youtube, addressId?_eq_some_iff.2 ⟨host, hhost, _, ?_, lastId?_path form id hparams⟩]
  · rfl
  · rw [String.toList_append, VideoForm.toList_address, hstart, String.toList_append]
    simp only [List.append_assoc]

/-- The pattern finds the id of an address of a video. -/
theorem capture?_address (form : VideoForm) :
    youtubePattern.capture? (form.address id) = some (String.ofList id.chars) := by
  have hnone : lastId? [] = none := rfl
  simpa [hnone] using @capture?_append form id "" (by simp)

/-- **An address with further parameters** is that of a video in any case.  It is the watched one
exactly when no mark with an id stands on the first line of these parameters, or the last one there
has the same id behind it. -/
theorem frameAddress?_params (id : VideoId) (params : String) :
    youtube.frameAddress? (VideoForm.watch.address id ++ "&" ++ params) =
        some ("https://www.youtube.com/embed/" ++
          String.ofList ((lastId? params.toList).getD id.chars)) ∧
      (youtube.frameAddress? (VideoForm.watch.address id ++ "&" ++ params) =
          some ("https://www.youtube.com/embed/" ++ String.ofList id.chars) ↔
        ∀ before mark after, LastIdMark (firstLine params.toList) before mark after →
          after.takeWhile isIdChar = id.chars) := by
  have hlater : lastId? ("&" ++ params).toList = lastId? params.toList := by
    have hnone : idBehind? ('&' :: params.toList) = none := by simp [idBehind?, behind]
    rw [String.toList_append]
    show lastId? ('&' :: params.toList) = _
    rw [lastId?, lastOnLine_cons (by decide), hnone, Option.or_none]
    rfl
  have hshown : youtube.frameAddress? (VideoForm.watch.address id ++ "&" ++ params) =
      some ("https://www.youtube.com/embed/" ++
        String.ofList ((lastId? params.toList).getD id.chars)) := by
    show (youtubePattern.capture? _).map _ = _
    rw [String.append_assoc, capture?_append .watch id (by simp), hlater]
    rfl
  refine ⟨hshown, ?_⟩
  rw [hshown, Option.some_inj, String.append_right_inj, String.ofList_inj]
  constructor
  · intro h before mark after hmark
    have hlast := lastId?_eq_some_iff.2 ⟨before, mark, after, hmark, rfl⟩
    simpa [hlast] using h
  · intro h
    cases hlast : lastId? params.toList with
    | none => rfl
    | some other =>
      obtain ⟨before, mark, after, hmark, rfl⟩ := lastId?_eq_some_iff.1 hlast
      rw [Option.getD_some, h before mark after hmark]

/-- The id of a watched video. -/
def watchedId : VideoId := ⟨"abc123".toList, by decide, List.all_eq_true.1 rfl⟩

/-- A parameter that names a related video makes it the one that is shown. -/
theorem relatedVideo_shown :
    VideoForm.watch.address watchedId ++ "&" ++ "rv=xyz789" =
        "https://www.youtube.com/watch?v=abc123&rv=xyz789" ∧
      youtube.frameAddress? (VideoForm.watch.address watchedId ++ "&" ++ "rv=xyz789") =
        some "https://www.youtube.com/embed/xyz789" := by
  decide +kernel

end EmbedProvider

/-! ## 3. An address in a text is found as a whole -/

namespace Links

/-- A character of an id belongs to an address and may end it. -/
theorem step_videoIdChar {c : Char} (hc : isVideoIdChar c = true) (s : TailScan) :
    s.step none c = some (s.pass true) := by
  have hends : (c.toNat < 0x20 || " |\"<>\x60".toList.contains c ||
      (0x7F ≤ c.toNat && c.toNat ≤ 0x9F)) = false :=
    forall_videoIdChar (P := fun c => (c.toNat < 0x20 || " |\"<>\x60".toList.contains c ||
      (0x7F ≤ c.toNat && c.toNat ≤ 0x9F)) = false) (by decide) hc
  have hpoints : "?!.,:;*".toList.contains c = false :=
    forall_videoIdChar (P := fun c => "?!.,:;*".toList.contains c = false) (by decide) hc
  have hbrackets : (c == '/') = false ∧ (c == '(') = false ∧ (c == ')') = false ∧
      (c == '[') = false ∧ (c == ']') = false ∧ (c == '\x7b') = false ∧ (c == '\x7d') = false ∧
        (c == '\'') = false :=
    forall_videoIdChar (P := fun c => (c == '/') = false ∧ (c == '(') = false ∧ (c == ')') = false ∧
      (c == '[') = false ∧ (c == ']') = false ∧ (c == '\x7b') = false ∧ (c == '\x7d') = false ∧
        (c == '\'') = false) (by decide) hc
  obtain ⟨h₁, h₂, h₃, h₄, h₅, h₆, h₇, h₈⟩ := hbrackets
  unfold TailScan.step
  rw [hends, hpoints, h₁, h₂, h₃, h₄, h₅, h₆, h₇, h₈]
  rfl

/-- An address goes on over the characters of an id. -/
theorem stop_run_videoId {cs : List Char} (hcs : ∀ c ∈ cs, isVideoIdChar c = true) {s : TailScan}
    (hs : s.stop = s.length) : (TailScan.run none s cs).stop = s.length + cs.length := by
  induction cs generalizing s with
  | nil => exact hs
  | cons c rest ih =>
    obtain ⟨hc, hrest⟩ := List.forall_mem_cons.1 hcs
    rw [TailScan.run, step_videoIdChar hc]
    refine (ih hrest rfl).trans ?_
    simp only [TailScan.pass, List.length_cons]
    omega

/-- No address is found by a character that is no colon, point or at sign. -/
theorem cutsFrom_pass {bytes : Nat} {before : List Char} {c : Char} {after : List Char}
    (hcolon : (c == ':') = false) (hpoint : (c == '.') = false) (hat : (c == '@') = false) :
    cutsFrom bytes before (c :: after) = cutsFrom bytes (c :: before) after := by
  rw [cutsFrom]
  simp [extent?, hcolon, hpoint, hat]

/-- An address with a scheme goes on to the end of what follows its authority. -/
theorem schemeExtent?_https {host path : List Char} {dot : Bool}
    (hhost : authority? ⟨true, true⟩ true (host ++ path) = some (host.length, dot))
    (hne : host ≠ []) (hpath : tailLength none path = path.length) :
    schemeExtent? "sptth".toList ('/' :: '/' :: (host ++ path)) =
      some ⟨5, ('/' :: '/' :: (host ++ path)).length⟩ := by
  have hscheme : schemeBefore? "sptth".toList = some ⟨5, none⟩ := rfl
  have hnames : namesHost (String.ofList ("sptth".toList.take 5).reverse) = true := rfl
  have hempty : (host ++ path).isEmpty = false :=
    List.isEmpty_eq_false_iff.2 (List.append_ne_nil_of_left_ne_nil hne path)
  have hpos : 0 < host.length := List.length_pos_iff.2 hne
  have hsome : (host.length + path.length == 0) = false := beq_eq_false_iff_ne.2 (by omega)
  simp only [schemeExtent?, hscheme, hnames, hempty, hhost, List.drop_left, hpath, hsome,
    Bool.false_eq_true, if_false, List.length_cons, List.length_append]
  congr 2
  omega

/-- The address goes from the scheme to the end of the id. -/
theorem schemeExtent?_address (form : VideoForm) (id : VideoId) :
    schemeExtent? "sptth".toList (form.start.toList.drop 6 ++ id.chars) =
      some ⟨5, (form.start.toList.drop 6 ++ id.chars).length⟩ := by
  cases form with
  | short =>
    have hpath : tailLength none ('/' :: id.chars) = 1 + id.chars.length :=
      stop_run_videoId (s := { length := 1, stop := 1 }) id.allowed rfl
    exact @schemeExtent?_https "youtu.be".toList ('/' :: id.chars) true rfl (by decide)
      (hpath.trans (Nat.add_comm ..))
  | watch =>
    have hpath : tailLength none ("/watch?v=".toList ++ id.chars) = 9 + id.chars.length :=
      stop_run_videoId (s := { length := 9, stop := 9 }) id.allowed rfl
    refine @schemeExtent?_https "www.youtube.com".toList ("/watch?v=".toList ++ id.chars) true rfl
      (by decide) (hpath.trans ?_)
    rw [List.length_append]
    rfl

/-- **An address of a video is found as a whole.** -/
theorem cuts_address (form : VideoForm) (id : VideoId) :
    cuts (form.address id).toList = [⟨some .url, (form.address id).toList⟩] := by
  have hstart : form.start.toList = "https:".toList ++ form.start.toList.drop 6 := by
    cases form <;> rfl
  have hextent := schemeExtent?_address form id
  rw [VideoForm.toList_address, hstart, List.append_assoc]
  generalize form.start.toList.drop 6 ++ id.chars = rest at hextent
  have hcolon : ∀ bytes, extent? bytes "sptth".toList ':' rest = some (.url, ⟨5, rest.length⟩) := by
    intro bytes
    rw [extent?, hextent]
    rfl
  show cutsFrom _ [] ('h' :: 't' :: 't' :: 'p' :: 's' :: ':' :: rest) = _
  repeat rw [cutsFrom_pass rfl rfl rfl]
  rw [cutsFrom, show ['s', 'p', 't', 't', 'h'] = "sptth".toList from rfl, hcolon]
  simp [plainCut, cutsFrom]

/-- **The text of an address of a video becomes a link to it** and nothing else. -/
theorem splitText?_address (form : VideoForm) (id : VideoId) :
    splitText? ⟨.text (form.address id), [], some ⟨0, (form.address id).utf8ByteSize⟩⟩ =
      some [⟨.link (form.address id) "",
        [⟨.text (form.address id), [], some ⟨0, (form.address id).utf8ByteSize⟩⟩],
        some ⟨0, (form.address id).utf8ByteSize⟩⟩] := by
  have hbegins : beginsWith "https://" (form.address id).toList = true := by
    rw [VideoForm.toList_address]
    cases form <;> rfl
  have htarget : (Cut.mk (some .url) (form.address id).toList).target? =
      some (form.address id) := by
    simp [Cut.target?, hbegins]
  simp [splitText?, splitTextWith?, cuts_address, linked, htarget, partNodes, Span.length,
    byteLength_toList, Node.text, Node.link, Node.ofKind, Node.withSpan]

end Links

end WikiPage
