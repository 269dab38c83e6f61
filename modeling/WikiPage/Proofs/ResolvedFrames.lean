import WikiPage.Proofs.DotSegments
import WikiPage.Proofs.OwnFrames
/-!
# Where frames lead

The sanitizer lets the source of a frame stay when it begins with an address that it was given, as it
is written.  Dot segments may follow there, and whoever follows the source comes out elsewhere.

* `Base`: an address that names a scheme, a host, and folders.
* `resolved_append`: what an address that goes on behind a base resolves to.
* `text_prefix_resolved`: which bases it still begins with then.
* `resolved_sources`: when the frames that the sanitizer lets stay are under its addresses.
-/

namespace WikiPage

namespace Address

/-! ## 1. Bases -/

/-- An address that is a scheme, a host and folders. -/
structure Base where
  scheme : List Char
  host : List Char
  folders : List Segment
  schemed : scheme ≠ []
  isScheme : ∀ c ∈ scheme, inScheme c = true
  isHost : ∀ c ∈ host, inHost c = true
  isFolder : ∀ f ∈ folders, ∀ c ∈ f, inHost c = true

namespace Base

/-- What stands before the path. -/
def origin (b : Base) : List Char := b.scheme ++ ':' :: '/' :: '/' :: b.host

/-- The address, with a slash at its end. -/
def text (b : Base) : List Char := b.origin ++ slashed (b.folders ++ [[]])

/-- The first folder of the host. -/
def root (b : Base) : Base := { b with folders := [], isFolder := by simp }

/-- The folders that one is in behind the address. -/
def settled (b : Base) : List Segment := b.folders.foldl enter []

variable {b : Base}

theorem text_append (rest : List Char) :
    b.text ++ rest = b.origin ++ (slashed b.folders ++ '/' :: rest) := by
  simp [text, slashed]

theorem scheme_origin (rest : List Char) : schemePart (b.origin ++ rest) = b.scheme ++ [':'] := by
  have htake : (b.origin ++ rest).takeWhile inScheme = b.scheme := by
    rw [origin, List.append_assoc, List.takeWhile_append_of_pos b.isScheme]
    exact List.append_nil _
  have hdrop : (b.origin ++ rest).drop b.scheme.length = ':' :: '/' :: '/' :: (b.host ++ rest) := by
    simp [origin]
  simp only [schemePart, htake, hdrop]
  rw [if_pos ⟨b.schemed, rfl⟩]

theorem authority_origin (rest : List Char) :
    authorityPart ('/' :: '/' :: (b.host ++ '/' :: rest)) = '/' :: '/' :: b.host := by
  have htake : (b.host ++ '/' :: rest).takeWhile inHost = b.host := by
    rw [List.takeWhile_append_of_pos b.isHost]
    exact List.append_nil _
  rw [authorityPart, if_pos (by simp)]
  exact congrArg ('/' :: '/' :: ·) htake

/-- Only the path of an address is changed. -/
theorem resolved_origin (rest : List Char) : resolved (b.origin ++ '/' :: rest) =
    b.origin ++ (removeDots (('/' :: rest).takeWhile inPath) ++ ('/' :: rest).dropWhile inPath) := by
  have hscheme : schemePart (b.origin ++ '/' :: rest) = b.scheme ++ [':'] := scheme_origin _
  have hafter : (b.origin ++ '/' :: rest).drop (b.scheme ++ [':']).length =
      '/' :: '/' :: (b.host ++ '/' :: rest) := by
    simp [origin]
  have hauthority := @authority_origin b rest
  have hpath : ('/' :: '/' :: (b.host ++ '/' :: rest)).drop ('/' :: '/' :: b.host).length =
      '/' :: rest := @List.drop_left _ ('/' :: '/' :: b.host) _
  simp only [resolved, hscheme, hafter, hauthority, hpath]
  simp [origin]

theorem not_slash_of_mem {f : Segment} (hf : f ∈ b.folders) : '/' ∉ f :=
  fun h => (inHost_iff.1 (b.isFolder f hf _ h)).2 rfl

/-- Names of folders do not end the path. -/
theorem inPath_folders : ∀ c ∈ slashed b.folders, inPath c = true := by
  intro c hc
  obtain ⟨f, hf, hc⟩ := List.mem_flatMap.1 hc
  rcases List.mem_cons.1 hc with rfl | hc
  · rfl
  · exact (inHost_iff.1 (b.isFolder f hf c hc)).1

/-- **What an address behind a base resolves to**: the same host, the folders that its route leads to,
a name in the last of them, and its query and fragment. -/
theorem resolved_append (b : Base) (rest : List Char) : resolved (b.text ++ rest) =
    b.origin ++ (slashed ((routeOf rest).follow b.settled ++ [lastOf rest]) ++
      rest.dropWhile inPath) := by
  have hcut := cutAt_ne_nil (rest.takeWhile inPath)
  have hslash : ∀ s ∈ b.folders ++ cutAt '/' (rest.takeWhile inPath), '/' ∉ s := fun s hs =>
    (List.mem_append.1 hs).elim not_slash_of_mem not_mem_of_mem_cutAt
  have htake : (slashed b.folders ++ '/' :: rest).takeWhile inPath =
      slashed (b.folders ++ cutAt '/' (rest.takeWhile inPath)) := by
    rw [List.takeWhile_append_of_pos inPath_folders, slashed_append, slashed_cutAt]
    rfl
  have hdrop : (slashed b.folders ++ '/' :: rest).dropWhile inPath = rest.dropWhile inPath := by
    rw [List.dropWhile_append_of_pos inPath_folders]
    rfl
  obtain ⟨path, hpath⟩ : ∃ path, slashed b.folders ++ '/' :: rest = '/' :: path := by
    cases b.folders with
    | nil => exact ⟨rest, rfl⟩
    | cons f folders => exact ⟨_, rfl⟩
  have hwalk := @removeDotsFrom_slashed (b.folders ++ cutAt '/' (rest.takeWhile inPath)) []
    (List.append_ne_nil_of_right_ne_nil _ hcut) hslash (by simp)
  rw [(foldersOf_append hcut).1, (foldersOf_append hcut).2, List.foldl_append,
    Route.foldl_enter (foldersOf _)] at hwalk
  rw [text_append, hpath, resolved_origin, ← hpath, htake, hdrop]
  exact congrArg (fun path => b.origin ++ (path ++ rest.dropWhile inPath)) hwalk

/-! ## 2. Beginnings -/

theorem follow_settled (b : Base) (rest : List Char) : (routeOf rest).follow b.settled =
    (b.folders ++ foldersOf (cutAt '/' (rest.takeWhile inPath))).foldl enter [] := by
  rw [List.foldl_append, Route.foldl_enter (foldersOf _)]
  rfl

/-- A folder that is reached has a name. -/
theorem mem_follow_settled {f : Segment} {rest : List Char}
    (h : f ∈ (routeOf rest).follow b.settled) : '/' ∉ f ∧ isDotSegment f = false := by
  rw [follow_settled] at h
  obtain ⟨hmem, hname⟩ := (mem_foldl_enter h).resolve_left List.not_mem_nil
  exact ⟨(List.mem_append.1 hmem).elim not_slash_of_mem
    fun h => not_mem_of_mem_cutAt ((foldersOf_sublist _).subset h), hname⟩

/-- **Which bases an address begins with once it is resolved**: those with its scheme, its host, and
folders on the way to where it leads. -/
theorem text_prefix_resolved (a b : Base) (rest : List Char) :
    a.text <+: resolved (b.text ++ rest) ↔
      a.scheme = b.scheme ∧ a.host = b.host ∧ a.folders <+: (routeOf rest).follow b.settled := by
  obtain ⟨path, hpath⟩ := exists_slashed_concat a.folders []
  obtain ⟨path', hpath'⟩ := exists_slashed_concat ((routeOf rest).follow b.settled) (lastOf rest)
  have hfolders := @slashed_prefix_iff (lastOf rest) (rest.dropWhile inPath) (inHost_lastOf rest)
    (head_dropWhile_inPath rest) a.folders ((routeOf rest).follow b.settled) a.isFolder
    fun f hf => (mem_follow_settled hf).1
  rw [hpath, hpath', List.cons_append, List.cons_prefix_cons, and_iff_right rfl] at hfolders
  have hscheme : ∀ b : Base, ∀ c ∈ b.scheme, (c == ':') = false := fun b c hc => by
    have := b.isScheme c hc
    simp_all [inScheme]
  have hhost : ∀ b : Base, ∀ c ∈ b.host, (c == '/') = false := fun b c hc =>
    beq_eq_false_iff_ne.2 (inHost_iff.1 (b.isHost c hc)).2
  rw [resolved_append, text, origin, origin, hpath, hpath']
  simp only [List.append_assoc, List.cons_append]
  rw [append_cons_prefix_iff (p := (· == ':')) rfl rfl (hscheme a) (hscheme b)]
  simp only [List.cons_prefix_cons, true_and]
  rw [append_cons_prefix_iff (p := (· == '/')) rfl rfl (hhost a) (hhost b), hfolders, and_iff_right rfl]

theorem root_text_prefix_resolved (b : Base) (rest : List Char) :
    b.root.text <+: resolved (b.text ++ rest) :=
  (text_prefix_resolved b.root b rest).2 ⟨rfl, rfl, List.nil_prefix⟩

/-- **When an address stays under its base**: the base has no dot segments itself, and the route behind
it goes back into as many of its folders as it leaves. -/
theorem text_prefix_resolved_self (b : Base) (rest : List Char) :
    b.text <+: resolved (b.text ++ rest) ↔ (∀ f ∈ b.folders, isDotSegment f = false) ∧
      b.folders.drop (b.folders.length - (routeOf rest).up) <+: (routeOf rest).names := by
  rw [text_prefix_resolved, and_iff_right rfl, and_iff_right rfl]
  have hback : (∀ f ∈ b.folders, isDotSegment f = false) →
      (b.folders <+: (routeOf rest).follow b.settled ↔
        b.folders.drop (b.folders.length - (routeOf rest).up) <+: (routeOf rest).names) := by
    intro h
    have happend := @List.prefix_append_right_inj _
      (b.folders.drop (b.folders.length - (routeOf rest).up)) (routeOf rest).names
      (b.folders.take (b.folders.length - (routeOf rest).up))
    rw [List.take_append_drop] at happend
    have hsettled : b.settled = b.folders := foldl_enter_names h
    rw [hsettled]
    exact happend
  constructor
  · intro h
    have hnames : ∀ f ∈ b.folders, isDotSegment f = false := fun f hf =>
      (mem_follow_settled (h.subset hf)).2
    exact ⟨hnames, (hback hnames).1 h⟩
  · rintro ⟨hnames, h⟩
    exact (hback hnames).2 h

end Base

end Address

namespace Sanitizer

open Address

/-! ## 3. Addresses of a sanitizer -/

/-- Whether an address is a scheme, a host and a path. -/
def HasForm (source : String) : Prop :=
  ∃ scheme host path : List Char, source.toList = scheme ++ ':' :: '/' :: '/' :: (host ++ path) ∧
    scheme ≠ [] ∧ scheme.all inScheme = true ∧ host.all inHost = true ∧ path.all inPath = true ∧
    (path.head? = some '/' ∨ path = [] ∧ host ≠ [])

theorem exists_segments {path : List Char} (hpath : ∀ c ∈ path, inPath c = true)
    (hform : path.head? = some '/' ∨ path = []) :
    ∃ segments : List Segment, path = slashed segments ∧
      ∀ f ∈ segments, ∀ c ∈ f, inHost c = true := by
  rcases hform with hform | rfl
  · obtain ⟨text, rfl⟩ := List.head?_eq_some_iff.1 hform
    refine ⟨cutAt '/' text, (slashed_cutAt text).symm, fun f hf c hc => ?_⟩
    have hslash : c ≠ '/' := by
      rintro rfl
      exact not_mem_of_mem_cutAt hf hc
    have hmem : c ∈ slashed (cutAt '/' text) := List.mem_flatMap.2 ⟨f, hf, List.mem_cons_of_mem _ hc⟩
    exact inHost_iff.2 ⟨hpath c (slashed_cutAt text ▸ hmem), hslash⟩
  · exact ⟨[], rfl, by simp⟩

/-- Neither a host nor a segment ends in a slash. -/
theorem getLast?_ne_slash {before last : List Char} (hin : ∀ c ∈ last, inHost c = true)
    (hne : last ≠ []) : (before ++ last).getLast? ≠ some '/' := by
  intro heq
  rw [List.getLast?_append, List.getLast?_eq_some_getLast hne, Option.some_or] at heq
  have hslash := hin _ (List.getLast_mem hne)
  rw [Option.some.inj heq] at hslash
  cases hslash

/-- With a slash at its end it is a base. -/
theorem exists_base {source : String} (h : HasForm source) :
    ∃ b : Base, (Address.withSlash source).toList = b.text := by
  obtain ⟨scheme, host, path, hsource, hscheme, hisScheme, hisHost, hpath, hform⟩ := h
  rw [List.all_eq_true] at hisScheme hisHost hpath
  obtain ⟨segments, rfl, hsegments⟩ := exists_segments hpath (hform.imp_right And.left)
  have hbase : ∀ folders : List Segment, (∀ f ∈ folders, ∀ c ∈ f, inHost c = true) →
      (Address.withSlash source).toList =
        (scheme ++ ':' :: '/' :: '/' :: host) ++ slashed (folders ++ [[]]) →
        ∃ b : Base, (Address.withSlash source).toList = b.text := fun folders hfolders heq =>
    ⟨⟨scheme, host, folders, hscheme, hisScheme, hisHost, hfolders⟩, heq⟩
  rw [Address.withSlash] at hbase ⊢
  split at hbase
  · rename_i hlast
    rw [if_pos hlast]
    obtain rfl | ⟨folders, last, rfl⟩ := List.eq_nil_or_concat segments
    · have hhost : host ≠ [] := (hform.resolve_left (by simp [slashed])).2
      have hsource' : source.toList = (scheme ++ [':', '/', '/']) ++ host := by
        simp [hsource, slashed]
      exact absurd (hsource' ▸ hlast) (getLast?_ne_slash hisHost hhost)
    · by_cases hempty : last = []
      · subst hempty
        refine hbase folders (fun f hf => hsegments f (by simp [hf])) ?_
        simp [hsource]
      · have hsource' : source.toList =
            (scheme ++ ':' :: '/' :: '/' :: (host ++ slashed folders ++ ['/'])) ++ last := by
          simp [hsource, slashed]
        exact absurd (hsource' ▸ hlast) (getLast?_ne_slash (hsegments last (by simp)) hempty)
  · rename_i hlast
    rw [if_neg hlast]
    refine hbase segments hsegments ?_
    simp [String.toList_append, hsource, slashed]

/-! ## 4. Frames that stay under their addresses -/

/-- Whether an address still begins with one of a sanitizer when it is resolved. -/
def StaysUnder (s : Sanitizer) (address : String) : Prop :=
  ∃ source ∈ s.sources, source.toList <+: resolved address.toList

instance (s : Sanitizer) (address : String) : Decidable (s.StaysUnder address) :=
  inferInstanceAs (Decidable (∃ source ∈ s.sources, source.toList <+: resolved address.toList))

section Given

variable {given : List String} (hgiven : ∀ source ∈ given, HasForm source)

include hgiven

theorem exists_base_of_mem {source : String} (h : source ∈ (ofSources given).sources) :
    ∃ b : Base, source = String.ofList b.text := by
  obtain ⟨other, hother, -, rfl⟩ := mem_sources h
  obtain ⟨b, hb⟩ := exists_base (hgiven other hother)
  exact ⟨b, by rw [← hb, String.ofList_toList]⟩

/-- What the filter lets stay goes on behind a base. -/
theorem exists_base_of_allowed {value : String} (h : (ofSources given).sourceAllowed value = true) :
    ∃ (b : Base) (rest : List Char), String.ofList b.text ∈ (ofSources given).sources ∧
      value = String.ofList (b.text ++ rest) := by
  obtain ⟨source, hsource, rest, hrest⟩ := sourceAllowed_iff.1 h
  obtain ⟨b, rfl⟩ := exists_base_of_mem hgiven hsource
  refine ⟨b, rest, hsource, ?_⟩
  rw [← String.toList_inj, ← hrest, String.toList_ofList, String.toList_ofList]

/-- Where it has to lead to stay under an address. -/
theorem staysUnder_iff (b : Base) (rest : List Char) :
    (ofSources given).StaysUnder (String.ofList (b.text ++ rest)) ↔
      ∃ a : Base, String.ofList a.text ∈ (ofSources given).sources ∧ a.scheme = b.scheme ∧
        a.host = b.host ∧ a.folders <+: (routeOf rest).follow b.settled := by
  rw [StaysUnder, String.toList_ofList]
  constructor
  · rintro ⟨source, hsource, hprefix⟩
    obtain ⟨a, rfl⟩ := exists_base_of_mem hgiven hsource
    rw [String.toList_ofList, Base.text_prefix_resolved] at hprefix
    exact ⟨a, hsource, hprefix⟩
  · rintro ⟨a, hsource, hprefix⟩
    refine ⟨_, hsource, ?_⟩
    rwa [String.toList_ofList, Base.text_prefix_resolved]

/-- Every frame stays under an address just when each host is given as a whole. -/
theorem staysUnder_all_iff :
    (∀ value, (ofSources given).sourceAllowed value = true → (ofSources given).StaysUnder value) ↔
      ∀ b : Base, String.ofList b.text ∈ (ofSources given).sources →
        String.ofList b.root.text ∈ (ofSources given).sources := by
  constructor
  · intro h b hb
    -- as many folders up as the address has
    have hallowed : (ofSources given).sourceAllowed
        (String.ofList (b.text ++ upwards b.folders.length)) = true := by
      refine sourceAllowed_iff.2 ⟨_, hb, ?_⟩
      rw [String.toList_ofList, String.toList_ofList]
      exact List.prefix_append _ _
    obtain ⟨a, ha, hscheme, hhost, hfolders⟩ := (staysUnder_iff hgiven b _).1 (h _ hallowed)
    have htop : (routeOf (upwards b.folders.length)).follow b.settled = [] := by
      have hlength : b.settled.length ≤ b.folders.length := by
        simpa [Base.settled] using length_foldl_enter_le b.folders []
      rw [routeOf_upwards, Route.follow, Nat.sub_eq_zero_of_le hlength]
      rfl
    rw [htop, List.prefix_nil] at hfolders
    have hroot : a.text = b.root.text := by
      rw [Base.text, Base.text, Base.origin, Base.origin, hscheme, hhost, hfolders]
      rfl
    rwa [hroot] at ha
  · intro h value hallowed
    obtain ⟨b, rest, hb, rfl⟩ := exists_base_of_allowed hgiven hallowed
    exact (staysUnder_iff hgiven b rest).2 ⟨b.root, h b hb, rfl, rfl, List.nil_prefix⟩

/-- No blueprint leads further up than the one whose id does nothing else. -/
theorem blueprint_staysUnder_iff {address : String} (haddress : Address.withSlash address ∈ given)
    {make : Shortcode.Params → Shortcode.Context → Node × List String}
    (hmake : (Shortcode.blueprint address).handler = .inline make) :
    (∀ params ctx value, (make params ctx).1.frameSource? = some value →
      (ofSources given).StaysUnder value) ↔
        (ofSources given).StaysUnder (Address.withSlash address ++ "../../..") := by
  obtain ⟨b, hb⟩ := exists_base (hgiven _ haddress)
  rw [Address.withSlash, if_pos (Address.getLast?_withSlash address)] at hb
  have hbehind : ∀ id : String,
      Address.withSlash address ++ id = String.ofList (b.text ++ id.toList) := fun id => by
    rw [← String.toList_inj, String.toList_append, hb, String.toList_ofList]
  constructor
  · intro h
    refine h (NameMap.empty.insert "id" (.text "../../..")) ⟨"", none, none, (⟨·, []⟩)⟩ _ ?_
    rw [Shortcode.frameSource?_blueprint hmake]
    have hid : Shortcode.Params.getText? (NameMap.empty.insert "id" (.text "../../..")) "id" =
        some "../../.." := by
      simp [Shortcode.Params.getText?, NameMap.get?_insert]
    rw [hid]
    exact if_pos (by decide)
  · intro h params ctx value hvalue
    rw [Shortcode.frameSource?_blueprint hmake, Option.ite_none_right_eq_some] at hvalue
    obtain ⟨hlength, hvalue⟩ := hvalue
    obtain rfl := Option.some.inj hvalue
    rw [hbehind, staysUnder_iff hgiven] at h ⊢
    obtain ⟨a, ha, hscheme, hhost, hfolders⟩ := h
    refine ⟨a, ha, hscheme, hhost, hfolders.trans ?_⟩
    have hup : (routeOf ((params.getText? "id").getD "").toList).up ≤ 3 := by
      have := up_routeOf ((params.getText? "id").getD "").toList
      rw [String.length_toList, hlength, show Shortcode.blueprintIdLength = 8 from rfl] at this
      omega
    have hroute : routeOf "../../..".toList = ⟨3, []⟩ := by decide +kernel
    rw [hroute, Route.follow, Route.follow, List.append_nil]
    exact (List.take_prefix_take_left (Nat.sub_le_sub_left hup _)).trans (List.prefix_append _ _)

/-- **Where frames lead.**  Let a sanitizer be given addresses that are a scheme, a host and a path.
What its filter lets stay goes on behind one of them, and resolves to an address with the same scheme
and host.  This is still under the address that it went on behind when that has no dot segments and
the route goes back into as many folders as it leaves, and under some address of the sanitizer when
this one's folders are on the way to where the route leads.  So every frame stays under an address
just when the sanitizer was given all hosts as a whole, and every blueprint does when the one whose
id goes up three folders does. -/
theorem resolved_sources :
    (∀ value, (ofSources given).sourceAllowed value = true →
      ∃ (b : Base) (rest : List Char), String.ofList b.text ∈ (ofSources given).sources ∧
        value = String.ofList (b.text ++ rest) ∧ b.root.text <+: resolved value.toList ∧
        (b.text <+: resolved value.toList ↔ (∀ f ∈ b.folders, isDotSegment f = false) ∧
          b.folders.drop (b.folders.length - (routeOf rest).up) <+: (routeOf rest).names) ∧
        ((ofSources given).StaysUnder value ↔
          ∃ a : Base, String.ofList a.text ∈ (ofSources given).sources ∧ a.scheme = b.scheme ∧
            a.host = b.host ∧ a.folders <+: (routeOf rest).follow b.settled)) ∧
    ((∀ value, (ofSources given).sourceAllowed value = true → (ofSources given).StaysUnder value) ↔
      ∀ b : Base, String.ofList b.text ∈ (ofSources given).sources →
        String.ofList b.root.text ∈ (ofSources given).sources) ∧
    ∀ address : String, Address.withSlash address ∈ given →
      ∀ make, (Shortcode.blueprint address).handler = .inline make →
        ((∀ params ctx value, (make params ctx).1.frameSource? = some value →
          (ofSources given).StaysUnder value) ↔
            (ofSources given).StaysUnder (Address.withSlash address ++ "../../..")) := by
  refine ⟨fun value hallowed => ?_, staysUnder_all_iff hgiven, fun address haddress make hmake =>
    blueprint_staysUnder_iff hgiven haddress hmake⟩
  obtain ⟨b, rest, hb, rfl⟩ := exists_base_of_allowed hgiven hallowed
  refine ⟨b, rest, hb, rfl, ?_, ?_, staysUnder_iff hgiven b rest⟩
  · rw [String.toList_ofList]
    exact b.root_text_prefix_resolved rest
  · rw [String.toList_ofList]
    exact b.text_prefix_resolved_self rest

end Given

/-- An address for videos and one for blueprints. -/
def twoSources : List String :=
  ["https://www.youtube.com/embed/", "https://blueprintue.com/render/"]

theorem hasForm_twoSources : ∀ source ∈ twoSources, HasForm source := by
  have hvideo : HasForm "https://www.youtube.com/embed/" := by
    refine ⟨"https".toList, "www.youtube.com".toList, "/embed/".toList, ?_⟩
    decide +kernel
  have hblueprint : HasForm "https://blueprintue.com/render/" := by
    refine ⟨"https".toList, "blueprintue.com".toList, "/render/".toList, ?_⟩
    decide +kernel
  simp [twoSources, hvideo, hblueprint]

/-- A frame with a dot segment stays as it is and leads out of the address that it begins with, and so
does a blueprint whose id is eight characters of dots and slashes. -/
theorem dotted_frames_leave :
    (∀ source ∈ twoSources, HasForm source) ∧
      (ofSources twoSources).sources = twoSources ∧
      (ofSources twoSources).sourceAllowed "https://www.youtube.com/embed/../evil" = true ∧
      (ofSources twoSources).clean
        "<iframe src=\"https://www.youtube.com/embed/../evil\"></iframe>" =
          "<iframe src=\"https://www.youtube.com/embed/../evil\"></iframe>" ∧
      resolved "https://www.youtube.com/embed/../evil".toList =
        "https://www.youtube.com/evil".toList ∧
      ¬ (ofSources twoSources).StaysUnder "https://www.youtube.com/embed/../evil" ∧
      "../../ab".length = 8 ∧
      ((Pipeline.render {} (Shortcode.braced "blueprint id=\"../../ab\"")).toOption.map (·.html)) =
        some ("<iframe allowfullscreen=\"\" class=\"blueprint\" height=\"500\" scrolling=\"no\" " ++
          "src=\"https://blueprintue.com/render/../../ab\"></iframe>") ∧
      ¬ (ofSources twoSources).StaysUnder (Shortcode.blueprintAddress ++ "../../ab") := by
  refine ⟨hasForm_twoSources, ?_⟩
  decide +kernel

/-- Not all blueprints stay, while a frame that comes back does. -/
theorem resolved_twoSources : (∀ source ∈ twoSources, HasForm source) ∧
    (∃ (b : Base) (rest : List Char), String.ofList b.text ∈ (ofSources twoSources).sources ∧
      "https://www.youtube.com/embed/../embed/x" = String.ofList (b.text ++ rest) ∧
      b.root.text <+: resolved "https://www.youtube.com/embed/../embed/x".toList) ∧
    (ofSources twoSources).StaysUnder "https://www.youtube.com/embed/../embed/x" ∧
    ¬ ∀ params ctx value,
      (Shortcode.blueprintNode Shortcode.blueprintAddress params ctx).1.frameSource? = some value →
        (ofSources twoSources).StaysUnder value := by
  obtain ⟨hstay, -, hblueprints⟩ := resolved_sources hasForm_twoSources
  have hmake : (Shortcode.blueprint Shortcode.blueprintAddress).handler =
      .inline (Shortcode.blueprintNode Shortcode.blueprintAddress) := by
    rw [Shortcode.blueprint, show Address.withSlash Shortcode.blueprintAddress =
      Shortcode.blueprintAddress by decide +kernel]
  obtain ⟨b, rest, hb, hvalue, hroot, -⟩ :=
    hstay "https://www.youtube.com/embed/../embed/x" (by decide +kernel)
  refine ⟨hasForm_twoSources, ⟨b, rest, hb, hvalue, hroot⟩, by decide +kernel, fun h => ?_⟩
  have hleaves := (hblueprints Shortcode.blueprintAddress (by decide +kernel) _ hmake).1 h
  exact absurd hleaves (by decide +kernel)

end Sanitizer

end WikiPage
