import WikiPage.Proofs.Frames
import WikiPage.Proofs.Nesting
/-!
# Frames that a page makes itself

A page makes frames for links to media and for blueprints, and the sanitizer is told where these come
from.  It looks for whole segments: an address that it is given counts with a slash at its end.  A
provider's address stands in its frames as it was given, so a frame of the provider may stay when
this address ends in a slash; a blueprint's address has its slash in both places.

* `cameFrom_of_mem_rewrite`: a node of a page with frames put in is one of the page, or one of those
  that took the place of a paragraph; `frameSource?_of_video?` is what the latter show.
* `withSlash_prefix_iff`: when an address with an id behind it begins with the address and a slash.
* `own_frames_allowed`: which of the frames that a pipeline makes its sanitizer allows.
-/

namespace WikiPage

/-- The address that a frame shows. -/
def Node.frameSource? (n : Node) : Option String :=
  if n.elementTag = some "iframe" then n.attributes.bind (·.getText? "src") else none

theorem Node.frameSource?_iframe (attributes : Attributes) :
    (Node.element "iframe" attributes).frameSource? = attributes.getText? "src" :=
  if_pos rfl

/-! ## 1. Frames for media -/

namespace Embeds

/-- The frame for a link shows an id behind the address of its provider. -/
theorem frame?_eq_some {e : Embeds} {url : String} {frame : Node} (h : e.frame? url = some frame) :
    ∃ provider ∈ e.providers, ∃ id, provider.pattern.capture? url = some id ∧
      frame = provider.frame (provider.base ++ id) := by
  obtain ⟨provider, hprovider, h⟩ := List.exists_of_findSome?_eq_some h
  obtain ⟨address, haddress, rfl⟩ := Option.map_eq_some_iff.1 h
  obtain ⟨id, hid, rfl⟩ := Option.map_eq_some_iff.1 haddress
  exact ⟨provider, hprovider, id, hid, rfl⟩

theorem frameSource?_frame (p : EmbedProvider) (address : String) :
    (p.frame address).frameSource? = some address := by
  unfold EmbedProvider.frame
  dsimp only
  rw [Node.frameSource?_iframe]
  split <;> split <;> simp

/-- In the place of a paragraph there is a frame of a provider, with an element around it. -/
theorem frameSource?_of_video? {e : Embeds} {n video m : Node} (h : e.video? n = some video)
    (hm : m ∈ video.preorder) : m.frameSource? = none ∨
      ∃ provider ∈ e.providers, ∃ url id, provider.pattern.capture? url = some id ∧
        m = provider.frame (provider.base ++ id) := by
  unfold video? at h
  split at h
  · split at h
    · rename_i url _ _ _ _
      obtain ⟨frame, hframe, rfl⟩ := Option.map_eq_some_iff.1 h
      obtain ⟨provider, hprovider, id, hid, rfl⟩ := frame?_eq_some hframe
      rcases List.mem_cons.1 hm with rfl | hm
      · exact .inl rfl
      · refine .inr ⟨provider, hprovider, url, id, hid, ?_⟩
        exact List.mem_singleton.1 hm
    · cases h
  · cases h

/-- How a node comes to stand where frames were put in, from nodes that were there: it is one of them,
with frames put in below it, or part of what took the place of one of them. -/
def CameFrom (e : Embeds) (ns : List Node) (m : Node) : Prop :=
  (∃ n ∈ ns, m = e.rewrite n) ∨ ∃ n ∈ ns, ∃ video, e.video? n = some video ∧ m ∈ video.preorder

theorem CameFrom.mono {e : Embeds} {ns ns' : List Node} {m : Node} (h : e.CameFrom ns m)
    (hsub : ns ⊆ ns') : e.CameFrom ns' m :=
  h.imp (fun ⟨n, hn, hm⟩ => ⟨n, hsub hn, hm⟩) (fun ⟨n, hn, hm⟩ => ⟨n, hsub hn, hm⟩)

theorem mem_preorder_self (n : Node) : n ∈ n.preorder := by
  cases n
  exact List.mem_cons_self

mutual
/-- **A node of a page with frames put in** comes from a node of the page. -/
theorem cameFrom_of_mem_rewrite (e : Embeds) {m : Node} : ∀ n : Node,
    m ∈ (e.rewrite n).preorder → e.CameFrom n.preorder m
  | ⟨kind, children, span⟩, hm => by
    rcases List.mem_cons.1 hm with rfl | hm
    · exact .inl ⟨_, List.mem_cons_self, rfl⟩
    · exact (cameFrom_of_mem_rewriteAll e kind.isRoot children hm).mono (List.subset_cons_self _ _)
theorem cameFrom_of_mem_rewriteAll (e : Embeds) {m : Node} (inDocument : Bool) :
    ∀ ns : List Node, m ∈ Node.preorderAll (e.rewriteAll inDocument ns) →
      e.CameFrom (Node.preorderAll ns) m
  | n :: rest, hm => by
    have hleft : n.preorder ⊆ Node.preorderAll (n :: rest) := List.subset_append_left _ _
    have hright : Node.preorderAll rest ⊆ Node.preorderAll (n :: rest) :=
      List.subset_append_right _ _
    obtain h | ⟨video, hvideo, h⟩ := rewriteAll_cons e inDocument n rest <;> rw [h] at hm <;>
      rcases List.mem_append.1 hm with hm | hm
    · exact (cameFrom_of_mem_rewrite e n hm).mono hleft
    · exact (cameFrom_of_mem_rewriteAll e inDocument rest hm).mono hright
    · exact .inr ⟨n, hleft (mem_preorder_self n), video, hvideo, hm⟩
    · exact (cameFrom_of_mem_rewriteAll e inDocument rest hm).mono hright
end

end Embeds

/-! ## 2. Addresses with an id -/

namespace Sanitizer

theorem sourceAllowed_iff {s : Sanitizer} {value : String} :
    s.sourceAllowed value = true ↔ ∃ source ∈ s.sources, source.toList <+: value.toList := by
  simp only [sourceAllowed, List.any_eq_true, List.isPrefixOf_iff_prefix]

theorem mem_addSource_of_mem {sources : List String} {source x : String} (h : x ∈ sources) :
    x ∈ addSource sources source := by
  unfold addSource
  split
  · exact h
  · dsimp only
    split
    · exact h
    · exact List.mem_append_left _ h

theorem withSlash_mem_addSource (sources : List String) {source : String} (h : source ≠ "") :
    Address.withSlash source ∈ addSource sources source := by
  rw [addSource, if_neg (by simpa using h)]
  dsimp only
  split
  · rename_i hcontains
    exact List.contains_iff_mem.1 hcontains
  · exact List.mem_append_right _ List.mem_cons_self

theorem mem_foldl_addSource_of {source x : String} : ∀ {given sources : List String},
    (x ∈ sources ∨ source ∈ given ∧ source ≠ "" ∧ x = Address.withSlash source) →
      x ∈ given.foldl addSource sources
  | [], _, h => h.resolve_right fun h => absurd h.1 List.not_mem_nil
  | first :: given, sources, h => by
    refine @mem_foldl_addSource_of source x given _ ?_
    rcases h with h | ⟨hmem, hne, rfl⟩
    · exact .inl (mem_addSource_of_mem h)
    · rcases List.mem_cons.1 hmem with rfl | hmem
      · exact .inl (withSlash_mem_addSource _ hne)
      · exact .inr ⟨hmem, hne, rfl⟩

/-- A value may stay when it begins with a given address and a slash. -/
theorem sourceAllowed_ofSources {given : List String} {value : String} :
    (ofSources given).sourceAllowed value = true ↔
      ∃ source ∈ given, source ≠ "" ∧ (Address.withSlash source).toList <+: value.toList := by
  rw [sourceAllowed_iff]
  constructor
  · rintro ⟨x, hx, hbegins⟩
    obtain ⟨source, hsource, hne, rfl⟩ := mem_sources hx
    exact ⟨source, hsource, hne, hbegins⟩
  · rintro ⟨source, hsource, hne, hbegins⟩
    exact ⟨_, mem_foldl_addSource_of (.inr ⟨hsource, hne, rfl⟩), hbegins⟩

/-- An address with an id behind it begins with the address and a slash just when the slash is at the
end of the one or at the beginning of the other. -/
theorem withSlash_prefix_iff (address id : String) :
    (Address.withSlash address).toList <+: (address ++ id).toList ↔
      address.toList.getLast? = some '/' ∨ id.toList.head? = some '/' := by
  rw [String.toList_append, Address.withSlash]
  split
  · rename_i hslash
    exact iff_of_true (List.prefix_append _ _) (.inl hslash)
  · rename_i hslash
    rw [String.toList_append, List.prefix_append_right_inj, or_iff_right hslash]
    cases id.toList with
    | nil => simp
    | cons c rest => simp [eq_comm]

/-- What does not satisfy the condition is left, at whatever place. -/
theorem mem_swapOut_of {p : Html.Attribute → Bool} {x : Html.Attribute} (hx : p x = false) :
    ∀ {l : List Html.Attribute}, x ∈ l → x ∈ swapOut p l
  | a :: rest, h => by
    simp only [swapOut]
    split
    · rename_i ha
      -- the element that goes is another one
      have hrest : x ∈ rest := (List.mem_cons.1 h).resolve_left fun heq => by
        rw [heq, ha] at hx
        cases hx
      have ih : x ∈ swapOut p rest := mem_swapOut_of hx hrest
      split
      · rename_i last hlast
        obtain ⟨others, hothers⟩ := List.getLast?_eq_some_iff.1 hlast
        rw [hothers] at ih ⊢
        rw [List.dropLast_concat]
        exact List.mem_cons.2 ((List.mem_append.1 ih).symm.imp_left List.mem_singleton.1)
      · rename_i hnone
        rw [List.getLast?_eq_none_iff.1 hnone] at ih
        exact absurd ih List.not_mem_nil
    · rcases List.mem_cons.1 h with rfl | h
      · exact List.mem_cons_self
      · exact List.mem_cons_of_mem _ (mem_swapOut_of hx h)

/-- A source that is allowed stays on its frame when its address may stay at all. -/
theorem source_mem_cleanAttributes {s : Sanitizer} {value : String}
    (hallowed : s.sourceAllowed value = true) (haddress : addressAllowed value = true)
    {attributes : List Html.Attribute} (h : ("src", value) ∈ attributes) :
    ("src", value) ∈ s.cleanAttributes "iframe" attributes := by
  have hown : (ownAttributes "iframe").contains "src" = true := by decide +kernel
  have hkept : attributeAllowed "iframe" ("src", value) = true := by
    rw [attributeAllowed, hown, haddress, Bool.or_true, Bool.or_true, Bool.true_and]
  have hrefused : s.refused "iframe" ("src", value) = false := by
    simp [refused, hallowed]
  exact mem_swapOut_of hrefused (List.mem_filter.2 ⟨h, hkept⟩)

end Sanitizer

/-! ## 3. Blueprints -/

namespace Shortcode

/-- The frame of a blueprint shows an id of the right length behind the address of the blueprint. -/
theorem frameSource?_blueprint {address : String} {make : Params → Context → Node × List String}
    (hmake : (blueprint address).handler = .inline make) (params : Params) (ctx : Context) :
    (make params ctx).1.frameSource? =
      if ((params.getText? "id").getD "").length = blueprintIdLength then
        some (Address.withSlash address ++ (params.getText? "id").getD "")
      else none := by
  cases hmake
  unfold blueprintNode
  dsimp only
  split
  · rw [Node.frameSource?_iframe]
    simp
  · rfl

end Shortcode

/-! ## 4. Frames of a pipeline -/

section OwnFrames

open Sanitizer

/-- Each frame that is put in shows the id of a medium behind the address of its provider. -/
theorem Embeds.frame_of_mem_rewrite (e : Embeds) {tree m : Node}
    (hm : m ∈ (e.rewrite tree).preorder) :
    (∃ n ∈ tree.preorder, m = e.rewrite n) ∨ m.frameSource? = none ∨
      ∃ provider ∈ e.providers, ∃ url id, provider.pattern.capture? url = some id ∧
        m = provider.frame (provider.base ++ id) ∧
        m.frameSource? = some (provider.base ++ id) := by
  rcases e.cameFrom_of_mem_rewrite tree hm with h | ⟨n, -, video, hvideo, hm⟩
  · exact .inl h
  · rcases frameSource?_of_video? hvideo hm with h | ⟨provider, hprovider, url, id, hid, rfl⟩
    · exact .inr (.inl h)
    · exact .inr (.inr ⟨provider, hprovider, url, id, hid, rfl, frameSource?_frame _ _⟩)

/-- When what stands behind one of the given addresses may stay. -/
theorem Sanitizer.sourceAllowed_append {given : List String} {address : String}
    (hgiven : address ∈ given) (hne : address ≠ "") (id : String) :
    (ofSources given).sourceAllowed (address ++ id) = true ↔
      address.toList.getLast? = some '/' ∨ id.toList.head? = some '/' ∨
        ∃ other ∈ given, other ≠ "" ∧ other ≠ address ∧
          (Address.withSlash other).toList <+: (address ++ id).toList := by
  rw [sourceAllowed_ofSources, ← or_assoc, ← withSlash_prefix_iff]
  constructor
  · rintro ⟨other, hother, hother_ne, hbegins⟩
    by_cases heq : other = address
    · exact .inl (heq ▸ hbegins)
    · exact .inr ⟨other, hother, hother_ne, heq, hbegins⟩
  · rintro (hbegins | ⟨other, hother, hother_ne, -, hbegins⟩)
    · exact ⟨address, hgiven, hne, hbegins⟩
    · exact ⟨other, hother, hother_ne, hbegins⟩

/-- A frame for a blueprint is allowed where blueprints are registered. -/
theorem Pipeline.blueprint_allowed {p : Pipeline} {address : String}
    (hmem : Shortcode.blueprint address ∈ p.registry.shortcodes)
    {make : Shortcode.Params → Shortcode.Context → Node × List String}
    (hmake : (Shortcode.blueprint address).handler = .inline make) {params : Shortcode.Params}
    {ctx : Shortcode.Context} {value : String}
    (hvalue : (make params ctx).1.frameSource? = some value) :
    p.sanitizer.sourceAllowed value = true := by
  rw [Shortcode.frameSource?_blueprint hmake, Option.ite_none_right_eq_some] at hvalue
  obtain ⟨-, hvalue⟩ := hvalue
  obtain rfl := Option.some.inj hvalue
  have hslash := Address.getLast?_withSlash address
  have hgiven : Address.withSlash address ∈ p.embeds.sources ++ p.registry.embedSources :=
    List.mem_append_right _ (List.mem_filterMap.2 ⟨_, hmem, rfl⟩)
  have hne : Address.withSlash address ≠ "" := fun hempty => by
    rw [hempty] at hslash
    cases hslash
  exact (sourceAllowed_append hgiven hne _).2 (.inl hslash)

/-- **The frames that a pipeline makes.**  A frame for a link to a medium shows the id of the medium
behind the address of a provider.  It is allowed when this address ends in a slash, and otherwise
only when the id begins with one, or when it begins with another address that the sanitizer was
given.  A frame for a blueprint is allowed, whatever the address of blueprints is.  What is allowed
stays on its frame when it is an address that may stay at all. -/
theorem own_frames_allowed (p : Pipeline) :
    (∀ tree m : Node, m ∈ (p.embeds.rewrite tree).preorder →
      (∃ n ∈ tree.preorder, m = p.embeds.rewrite n) ∨ m.frameSource? = none ∨
        ∃ provider ∈ p.embeds.providers, ∃ url id, provider.pattern.capture? url = some id ∧
          m = provider.frame (provider.base ++ id) ∧
          m.frameSource? = some (provider.base ++ id)) ∧
    (∀ provider ∈ p.embeds.providers, provider.base ≠ "" → ∀ id : String,
      p.sanitizer.sourceAllowed (provider.base ++ id) = true ↔
        provider.base.toList.getLast? = some '/' ∨ id.toList.head? = some '/' ∨
          ∃ other ∈ p.embeds.sources ++ p.registry.embedSources, other ≠ "" ∧
            other ≠ provider.base ∧
              (Address.withSlash other).toList <+: (provider.base ++ id).toList) ∧
    (∀ address : String, Shortcode.blueprint address ∈ p.registry.shortcodes →
      ∀ make, (Shortcode.blueprint address).handler = .inline make → ∀ params ctx value,
        (make params ctx).1.frameSource? = some value → p.sanitizer.sourceAllowed value = true) ∧
    ∀ (value : String) (attributes : List Html.Attribute),
      p.sanitizer.sourceAllowed value = true → addressAllowed value = true →
        ("src", value) ∈ attributes →
          ("src", value) ∈ p.sanitizer.cleanAttributes "iframe" attributes := by
  refine ⟨fun tree m hm => p.embeds.frame_of_mem_rewrite hm, fun provider hprovider hbase id => ?_,
    fun address hmem make hmake params ctx value hvalue => p.blueprint_allowed hmem hmake hvalue,
    fun _ _ hallowed haddress hmem => source_mem_cleanAttributes hallowed haddress hmem⟩
  have hgiven : provider.base ∈ p.embeds.sources ++ p.registry.embedSources :=
    List.mem_append_left _ (List.mem_map_of_mem hprovider)
  exact sourceAllowed_append hgiven hbase id

/-- A provider whose frames show any address, as a query. -/
def queryProvider : EmbedProvider where
  name := "query"
  pattern := .inOrder [.atStart, .group (.many .any), .atEnd]
  base := "https://any.example/?u="

/-- A frame of this provider is refused: its address goes on behind what is no whole segment. -/
theorem query_frame_refused :
    queryProvider.base ≠ "" ∧ queryProvider.frameAddress? "foo" = some "https://any.example/?u=foo" ∧
      (Pipeline.sanitizer { embeds := ⟨[queryProvider]⟩ }).sourceAllowed
        "https://any.example/?u=foo" = false ∧
      ((Pipeline.render { embeds := ⟨[queryProvider]⟩ } "[x](foo)\n").toOption.map (·.html)) =
        some "<div class=\"video\"><iframe allowfullscreen=\"\"></iframe></div>" := by
  decide +kernel

/-- A video's frame is allowed. -/
theorem youtube_frame_allowed :
    EmbedProvider.youtube ∈ (Pipeline.mk {} .standard .standard).embeds.providers ∧
      EmbedProvider.youtube.base ≠ "" ∧
      EmbedProvider.youtube.frameAddress? "https://youtu.be/abc" =
        some (EmbedProvider.youtube.base ++ "abc") ∧
      (Pipeline.mk {} .standard .standard).sanitizer.sourceAllowed
        (EmbedProvider.youtube.base ++ "abc") = true := by
  have hmem : EmbedProvider.youtube ∈ (Pipeline.mk {} .standard .standard).embeds.providers :=
    List.mem_cons_self
  have hbase : EmbedProvider.youtube.base ≠ "" := by decide
  refine ⟨hmem, hbase, by decide +kernel, ?_⟩
  exact ((own_frames_allowed (Pipeline.mk {} .standard .standard)).2.1 _ hmem hbase "abc").2
    (.inl (by decide))

end OwnFrames

end WikiPage
