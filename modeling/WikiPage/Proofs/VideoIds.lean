import WikiPage.Embed
import WikiPage.Proofs.Patterns
/-!
# Which addresses name a video

The pattern for addresses of videos has three parts that take as much as they can, and several that
may be left out.  All the same it finds one thing: the id behind the last mark on the line behind
the host, a mark being a slash or `v=` that a character of an id follows.

* `lastOnLine_eq_lastId?`: the parts behind the host are one search for the last mark.
* `capture?_youtube`: the pattern, part by part; `addressId?_eq_some_iff`: all hosts that it allows.
* `frameAddress?_youtube` is the closed form, with `LastIdMark` for the last mark.
-/

namespace WikiPage.EmbedProvider

open Text

variable {text : List Char} {id : List Char}

/-! ## 1. The last mark -/

/-- The id that a text begins with. -/
def idAt? (text : List Char) : Option (List Char) := Pattern.leading? isIdChar text

/-- The id behind a mark that a text begins with. -/
def idBehind? (text : List Char) : Option (List Char) :=
  (behind idAt? "v=".toList text).or (behind idAt? "/".toList text)

/-- The id behind the last mark on the first line of a text. -/
def lastId? (text : List Char) : Option (List Char) := lastOnLine idBehind? text

/-- What the last part of the pattern finds: the last `v=`, or a slash here, with a `v` or without. -/
def idBehindAny? (text : List Char) : Option (List Char) :=
  (lastOnLine (behind idAt? "v=".toList) text).or
    ((behind idAt? "v/".toList text).or (behind idAt? "/".toList text))

/-- Where there is no mark later, the last part of the pattern finds the id behind the mark here. -/
theorem idBehindAny?_of_later (h : ∀ rest ∈ (lineTails text).tail, idBehind? rest = none) :
    idBehindAny? text = idBehind? text := by
  have hequals : lastOnLine (behind idAt? "v=".toList) text = behind idAt? "v=".toList text :=
    lastOnLine_of_later fun rest hrest => (Option.or_eq_none_iff.1 (h rest hrest)).1
  have hslash : behind idAt? "v/".toList text = none := by
    refine behind_eq_none fun rest heq => ?_
    have hrest := h ("/".toList ++ rest) (by rw [heq]; simp [lineTails])
    have := (Option.or_eq_none_iff.1 hrest).2
    rwa [behind_append] at this
  rw [idBehindAny?, hequals, hslash]
  rfl

/-- Behind a word in the pattern nothing is found that is not found without it. -/
theorem behind_idBehindAny? {word : List Char} (hword : word ≠ []) (hline : '\n' ∉ word)
    (h : ∀ rest ∈ (lineTails text).tail, idBehind? rest = none) :
    behind idBehindAny? word text = none := by
  refine behind_eq_none fun rest heq => ?_
  obtain ⟨c, word, rfl⟩ := List.exists_cons_of_ne_nil hword
  rw [heq, List.cons_append, tail_lineTails_cons (List.ne_of_not_mem_cons hline).symm] at h
  have hlater : ∀ last ∈ lineTails rest, last ∈ lineTails (word ++ rest) :=
    fun last => mem_lineTails_append (List.not_mem_of_not_mem_cons hline)
  rw [idBehindAny?_of_later fun last hlast => h last (hlater last (List.mem_of_mem_tail hlast))]
  exact h rest (hlater rest (by rw [lineTails_eq_cons]; exact List.mem_cons_self))

/-- **The parts of the pattern behind the host** find the id behind the last mark. -/
theorem lastOnLine_eq_lastId? (text : List Char) :
    lastOnLine (fun text => ((behind idBehindAny? "watch".toList text).or
      (behind idBehindAny? "embed".toList text)).or (idBehindAny? text)) text = lastId? text := by
  refine lastOnLine_congr (fun text h => ?_) text
  rw [behind_idBehindAny? (by decide) (by decide) h, behind_idBehindAny? (by decide) (by decide) h,
    idBehindAny?_of_later h]
  rfl

/-! ## 2. Hosts -/

/-- What the addresses of videos begin with. -/
def videoHosts : List String :=
  ["", "http://", "https://"].flatMap fun scheme => ["", "www."].flatMap fun www =>
    ["youtube", "youtu.be"].map fun host => scheme ++ www ++ host

/-- What the part of the pattern from the host on finds. -/
def hostId? : List Char → Option (List Char) :=
  behind (maybeBehind (behind lastId? "be".toList) ".".toList) "youtu".toList

/-- What the pattern finds behind the scheme. -/
def wwwId? : List Char → Option (List Char) := maybeBehind hostId? "www.".toList

/-- What the pattern finds. -/
def addressId? (text : List Char) : Option (List Char) :=
  (behind (maybeBehind (behind wwwId? "://".toList) "s".toList) "http".toList text).or (wwwId? text)

/-- **What the pattern finds**, part by part. -/
theorem capture?_youtube (url : String) :
    youtubePattern.capture? url = (addressId? url.toList).map String.ofList := by
  have hend : ∀ place : Pattern.Place,
      ((Pattern.optional (Pattern.word "&")).run place some).map Pattern.Place.kept =
        some place.kept := by
    rintro ⟨start, text, kept⟩
    cases text with
    | nil => rfl
    | cons c rest => by_cases hc : c = '&' <;> simp [Pattern.optional, Pattern.word, Pattern.run, hc]
  have hid : Pattern.Finds _ idAt? := Pattern.Finds.group hend
  have hmark : Pattern.Finds _ idBehindAny? :=
    (hid.word "v=").many_any.seq.alt ((hid.word "v/").alt (hid.word "/"))
  have hpath := (((hmark.word "watch").alt (hmark.word "embed")).optional hmark).many_any
  rw [show lastOnLine _ = lastId? from funext lastOnLine_eq_lastId?] at hpath
  have hslash := hpath.maybeWord "/"
  rw [show maybeBehind lastId? _ = lastId? from maybeBehind_lastOnLine (by decide)] at hslash
  have hcom := hslash.maybeWord ".com"
  rw [show maybeBehind lastId? _ = lastId? from maybeBehind_lastOnLine (by decide)] at hcom
  have hwww := (((hcom.word "be").maybeWord ".").word "youtu").maybeWord "www."
  have hscheme := (((hwww.word "://").maybeWord "s").seq.word "http").seq.optional hwww
  exact Pattern.capture?_atStart hscheme url

theorem hostId?_eq_some_iff : hostId? text = some id ↔
    ∃ host ∈ ["youtube", "youtu.be"], ∃ rest,
      text = host.toList ++ rest ∧ lastId? rest = some id := by
  constructor
  · intro h
    obtain ⟨_, rfl, hdot⟩ := behind_eq_some_iff.1 h
    rcases maybeBehind_eq_some hdot with hbe | ⟨_, rfl, hbe⟩
    · obtain ⟨rest, rfl, hrest⟩ := behind_eq_some_iff.1 hbe
      exact ⟨"youtube", by simp, rest, rfl, hrest⟩
    · obtain ⟨rest, rfl, hrest⟩ := behind_eq_some_iff.1 hbe
      exact ⟨"youtu.be", by simp, rest, rfl, hrest⟩
  · rintro ⟨host, hhost, rest, rfl, h⟩
    obtain rfl | rfl : host = "youtube" ∨ host = "youtu.be" := by simpa using hhost
    · simp [hostId?, maybeBehind, behind, h]
    · simp [hostId?, maybeBehind, behind, h]

theorem wwwId?_eq_some_iff : wwwId? text = some id ↔
    ∃ www ∈ ["", "www."], ∃ rest, text = www.toList ++ rest ∧ hostId? rest = some id := by
  constructor
  · intro h
    rcases maybeBehind_eq_some h with hrest | ⟨rest, rfl, hrest⟩
    · exact ⟨"", by simp, text, rfl, hrest⟩
    · exact ⟨"www.", by simp, rest, rfl, hrest⟩
  · rintro ⟨www, hwww, rest, rfl, h⟩
    obtain rfl | rfl : www = "" ∨ www = "www." := by simpa using hwww
    · -- a host does not begin with the word
      obtain ⟨rest, rfl, -⟩ := behind_eq_some_iff.1 h
      simpa [wwwId?, maybeBehind, behind] using h
    · simp [wwwId?, maybeBehind, behind, h]

theorem addressId?_eq_some_iff_www : addressId? text = some id ↔
    ∃ scheme ∈ ["", "http://", "https://"], ∃ rest,
      text = scheme.toList ++ rest ∧ wwwId? rest = some id := by
  constructor
  · intro h
    rcases Option.or_eq_some_iff.1 h with hword | ⟨-, hnone⟩
    · obtain ⟨_, rfl, hs⟩ := behind_eq_some_iff.1 hword
      rcases maybeBehind_eq_some hs with hcolon | ⟨_, rfl, hcolon⟩
      · obtain ⟨rest, rfl, hrest⟩ := behind_eq_some_iff.1 hcolon
        exact ⟨"http://", by simp, rest, rfl, hrest⟩
      · obtain ⟨rest, rfl, hrest⟩ := behind_eq_some_iff.1 hcolon
        exact ⟨"https://", by simp, rest, rfl, hrest⟩
    · exact ⟨"", by simp, text, rfl, hnone⟩
  · rintro ⟨scheme, hscheme, rest, rfl, h⟩
    obtain rfl | rfl | rfl : scheme = "" ∨ scheme = "http://" ∨ scheme = "https://" := by
      simpa using hscheme
    · -- what a host begins with, or the word before it, is no scheme
      obtain ⟨www, hwww, _, rfl, hhost⟩ := wwwId?_eq_some_iff.1 h
      obtain ⟨rest, rfl, -⟩ := behind_eq_some_iff.1 hhost
      obtain rfl | rfl : www = "" ∨ www = "www." := by simpa using hwww
      · simpa [addressId?, behind] using h
      · simpa [addressId?, behind] using h
    · simp [addressId?, maybeBehind, behind, h]
    · simp [addressId?, maybeBehind, behind, h]

/-- An address is that of a video when it is a host and text in which an id is found. -/
theorem addressId?_eq_some_iff : addressId? text = some id ↔
    ∃ host ∈ videoHosts, ∃ rest, text = host.toList ++ rest ∧ lastId? rest = some id := by
  rw [addressId?_eq_some_iff_www]
  constructor
  · rintro ⟨scheme, hscheme, _, rfl, hwwwId⟩
    obtain ⟨www, hwww, _, rfl, hhostId⟩ := wwwId?_eq_some_iff.1 hwwwId
    obtain ⟨host, hhost, rest, rfl, h⟩ := hostId?_eq_some_iff.1 hhostId
    refine ⟨scheme ++ www ++ host, ?_, rest, by simp, h⟩
    exact List.mem_flatMap.2 ⟨scheme, hscheme, List.mem_flatMap.2 ⟨www, hwww,
      List.mem_map.2 ⟨host, hhost, rfl⟩⟩⟩
  · rintro ⟨_, hwhole, rest, rfl, h⟩
    obtain ⟨scheme, hscheme, hwhole⟩ := List.mem_flatMap.1 hwhole
    obtain ⟨www, hwww, hwhole⟩ := List.mem_flatMap.1 hwhole
    obtain ⟨host, hhost, rfl⟩ := List.mem_map.1 hwhole
    refine ⟨scheme, hscheme, www.toList ++ (host.toList ++ rest), by simp, ?_⟩
    exact wwwId?_eq_some_iff.2 ⟨www, hwww, _, rfl, hostId?_eq_some_iff.2 ⟨host, hhost, rest, rfl, h⟩⟩

/-! ## 3. Marks on a line -/

/-- A mark on a line and what is before and behind it, where a character of an id follows. -/
structure IdMark (line before mark after : List Char) : Prop where
  line_eq : line = before ++ (mark ++ after)
  mark_mem : mark ∈ ["/".toList, "v=".toList]
  id_follows : ∃ c ∈ after.head?, isIdChar c = true

/-- The last of these marks on a line. -/
structure LastIdMark (line before mark after : List Char) : Prop extends
    IdMark line before mark after where
  last : ∀ before' mark' after', IdMark line before' mark' after' → before'.length ≤ before.length

theorem idAt?_eq_some_iff : idAt? text = some id ↔
    (∃ c ∈ text.head?, isIdChar c = true) ∧ id = text.takeWhile isIdChar := by
  rw [idAt?, Pattern.leading?]
  cases text with
  | nil => simp
  | cons c text =>
    cases hc : isIdChar c with
    | false => simp [hc]
    | true =>
      rw [List.takeWhile_cons_of_pos hc, eq_comm (a := id)]
      simp [hc]

theorem idBehind?_eq_some_iff : idBehind? text = some id ↔
    ∃ mark ∈ ["/".toList, "v=".toList], ∃ after, text = mark ++ after ∧
      (∃ c ∈ after.head?, isIdChar c = true) ∧ id = after.takeWhile isIdChar := by
  constructor
  · intro h
    rcases Option.or_eq_some_iff.1 h with h | ⟨-, h⟩
    · obtain ⟨after, heq, hid⟩ := behind_eq_some_iff.1 h
      exact ⟨_, by simp, after, heq, idAt?_eq_some_iff.1 hid⟩
    · obtain ⟨after, heq, hid⟩ := behind_eq_some_iff.1 h
      exact ⟨_, by simp, after, heq, idAt?_eq_some_iff.1 hid⟩
  · rintro ⟨mark, hmark, after, rfl, hid⟩
    have hid := idAt?_eq_some_iff.2 hid
    obtain rfl | rfl : mark = "/".toList ∨ mark = "v=".toList := by simpa using hmark
    · simpa [idBehind?, behind] using hid
    · simp [idBehind?, behind, hid]

theorem takeWhile_firstLine (text : List Char) :
    (firstLine text).takeWhile isIdChar = text.takeWhile isIdChar := by
  induction text with
  | nil => rfl
  | cons c text ih =>
    by_cases hc : c = '\n'
    · subst hc
      rfl
    · rw [firstLine_cons hc, List.takeWhile_cons, List.takeWhile_cons, ih]

theorem idBehind?_firstLine (text : List Char) : idBehind? (firstLine text) = idBehind? text := by
  have hid : (fun text => idAt? (firstLine text)) = idAt? := by
    funext text
    rw [idAt?, idAt?, Pattern.leading?, Pattern.leading?, takeWhile_firstLine]
  rw [idBehind?, behind_firstLine (by decide), behind_firstLine (by decide), hid]
  rfl

/-- A place where there is an id behind a mark is a mark with one. -/
theorem foundAt_iff {line before rest : List Char} (hline : '\n' ∉ line) :
    FoundAt idBehind? line before rest ↔
      ∃ mark after, rest = mark ++ after ∧ IdMark line before mark after := by
  constructor
  · rintro ⟨heq, -, hfound⟩
    obtain ⟨id, hid⟩ := Option.isSome_iff_exists.1 hfound
    obtain ⟨mark, hmark, after, rfl, hfollows, -⟩ := idBehind?_eq_some_iff.1 hid
    exact ⟨mark, after, rfl, heq, hmark, hfollows⟩
  · rintro ⟨mark, after, rfl, heq, hmark, hfollows⟩
    refine ⟨heq, fun hbefore => hline (heq ▸ List.mem_append_left _ hbefore), ?_⟩
    rw [idBehind?_eq_some_iff.2 ⟨mark, hmark, after, rfl, hfollows, rfl⟩]
    rfl

/-- **The last id on a line** is what stands behind the last mark. -/
theorem lastId?_eq_some_iff : lastId? text = some id ↔
    ∃ before mark after, LastIdMark (firstLine text) before mark after ∧
      id = after.takeWhile isIdChar := by
  have hline : '\n' ∉ firstLine text := newline_notMem_firstLine
  rw [lastId?, ← lastOnLine_firstLine idBehind?_firstLine]
  generalize firstLine text = line at hline
  constructor
  · intro h
    obtain ⟨before, rest, hplace, hfound⟩ := exists_lastFound h
    obtain ⟨mark, hmark, after, rfl, hfollows, hid⟩ := idBehind?_eq_some_iff.1 hfound
    refine ⟨before, mark, after, ⟨⟨hplace.text_eq, hmark, hfollows⟩, ?_⟩, hid⟩
    intro before' mark' after' hother
    exact hplace.last before' _ ((foundAt_iff hline).2 ⟨mark', after', rfl, hother⟩)
  · rintro ⟨before, mark, after, hmark, hid⟩
    have hplace : LastFound idBehind? line before (mark ++ after) := by
      refine ⟨(foundAt_iff hline).2 ⟨mark, after, rfl, hmark.toIdMark⟩, fun before' rest' hother => ?_⟩
      obtain ⟨mark', after', -, hother⟩ := (foundAt_iff hline).1 hother
      exact hmark.last before' mark' after' hother
    rw [hplace.lastOnLine_eq]
    exact idBehind?_eq_some_iff.2 ⟨mark, hmark.mark_mem, after, rfl, hmark.id_follows, hid⟩

/-- There is an id on a line where there is a mark. -/
theorem isSome_lastId?_iff : (lastId? text).isSome = true ↔
    ∃ before mark after, IdMark (firstLine text) before mark after := by
  constructor
  · intro h
    obtain ⟨id, hid⟩ := Option.isSome_iff_exists.1 h
    obtain ⟨before, mark, after, hmark, -⟩ := lastId?_eq_some_iff.1 hid
    exact ⟨before, mark, after, hmark.toIdMark⟩
  · rintro ⟨before, mark, after, hmark⟩
    rw [lastId?, ← lastOnLine_firstLine idBehind?_firstLine]
    exact Option.isSome_iff_ne_none.2
      (lastOnLine_ne_none ((foundAt_iff newline_notMem_firstLine).2 ⟨mark, after, rfl, hmark⟩))

/-! ## 4. The closed form -/

theorem frameAddress?_youtube_eq_some_iff {url address : String} :
    youtube.frameAddress? url = some address ↔
      ∃ host ∈ videoHosts, ∃ rest id, url.toList = host.toList ++ rest ∧ lastId? rest = some id ∧
        address = "https://www.youtube.com/embed/" ++ String.ofList id := by
  show (youtubePattern.capture? url).map _ = _ ↔ _
  rw [capture?_youtube, Option.map_map]
  constructor
  · intro h
    obtain ⟨id, hid, rfl⟩ := Option.map_eq_some_iff.1 h
    obtain ⟨host, hhost, rest, heq, hlast⟩ := addressId?_eq_some_iff.1 hid
    exact ⟨host, hhost, rest, id, heq, hlast, rfl⟩
  · rintro ⟨host, hhost, rest, id, heq, hlast, rfl⟩
    rw [addressId?_eq_some_iff.2 ⟨host, hhost, rest, heq, hlast⟩]
    rfl

/-- **Which addresses are those of videos**: a host, and behind it on the same line a mark that a
character of an id follows.  The video is that with the id behind the last of these marks. -/
theorem frameAddress?_youtube (url : String) :
    ((youtube.frameAddress? url).isSome = true ↔
      ∃ host ∈ videoHosts, ∃ rest, url.toList = host.toList ++ rest ∧
        ∃ before mark after, IdMark (firstLine rest) before mark after) ∧
    ∀ address, youtube.frameAddress? url = some address ↔
      ∃ host ∈ videoHosts, ∃ rest, url.toList = host.toList ++ rest ∧
        ∃ before mark after, LastIdMark (firstLine rest) before mark after ∧
          address = "https://www.youtube.com/embed/" ++
            String.ofList (after.takeWhile isIdChar) := by
  refine ⟨⟨fun h => ?_, ?_⟩, fun address => ⟨fun h => ?_, ?_⟩⟩
  · obtain ⟨address, haddress⟩ := Option.isSome_iff_exists.1 h
    obtain ⟨host, hhost, rest, id, heq, hid, -⟩ := frameAddress?_youtube_eq_some_iff.1 haddress
    exact ⟨host, hhost, rest, heq, isSome_lastId?_iff.1 (by rw [hid]; rfl)⟩
  · rintro ⟨host, hhost, rest, heq, hmark⟩
    obtain ⟨id, hid⟩ := Option.isSome_iff_exists.1 (isSome_lastId?_iff.2 hmark)
    exact Option.isSome_iff_exists.2
      ⟨_, frameAddress?_youtube_eq_some_iff.2 ⟨host, hhost, rest, id, heq, hid, rfl⟩⟩
  · obtain ⟨host, hhost, rest, id, heq, hid, rfl⟩ := frameAddress?_youtube_eq_some_iff.1 h
    obtain ⟨before, mark, after, hmark, rfl⟩ := lastId?_eq_some_iff.1 hid
    exact ⟨host, hhost, rest, heq, before, mark, after, hmark, rfl⟩
  · rintro ⟨host, hhost, rest, heq, before, mark, after, hmark, rfl⟩
    exact frameAddress?_youtube_eq_some_iff.2 ⟨host, hhost, rest, _, heq,
      lastId?_eq_some_iff.2 ⟨before, mark, after, hmark, rfl⟩, rfl⟩

end WikiPage.EmbedProvider
