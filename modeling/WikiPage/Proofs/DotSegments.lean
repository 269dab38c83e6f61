import WikiPage.Address
import Mathlib.Data.List.Infix
import Mathlib.Data.List.TakeWhile
/-!
# Dot segments

Whoever follows an address takes the dot segments out of its path first: `.` is the folder that one is
in, and `..` the folder above it.  This is done on the characters of the path, rule by rule, and comes
down to a walk through folders.

* `removeDots`: the rules.
* `removeDotsFrom_slashed`: on a path that begins with a slash they are the walk `enter`.
* `Route.foldl_enter`: wherever a walk begins, it goes some folders up and then into others.
* `up_routeOf`: how far up a path of some length can go.
* `slashed_prefix_iff`: which folders a path begins with.
* `resolved`: an address whose path has no dot segments any more.
-/

namespace WikiPage.Address

/-! ## 1. Removal -/

/-- A path without its last segment and the slash before it. -/
def withoutLast (path : List Char) : List Char :=
  ((path.reverse.dropWhile (· != '/')).drop 1).reverse

/-- Moves a path segment by segment to the end of another one, and takes the dot segments out on the
way; the first rule that applies is followed. -/
def removeDotsFrom (input output : List Char) : List Char :=
  match input with
  | [] => output
  | c :: rest =>
    -- these two, and the last one before names, are for paths that begin without a slash
    if "../".toList <+: c :: rest then removeDotsFrom ((c :: rest).drop 3) output
    else if "./".toList <+: c :: rest then removeDotsFrom ((c :: rest).drop 2) output
    else if "/./".toList <+: c :: rest then removeDotsFrom ((c :: rest).drop 2) output
    else if c :: rest = "/.".toList then removeDotsFrom ['/'] output
    else if "/../".toList <+: c :: rest then
      removeDotsFrom ((c :: rest).drop 3) (withoutLast output)
    else if c :: rest = "/..".toList then removeDotsFrom ['/'] (withoutLast output)
    else if c :: rest = ".".toList ∨ c :: rest = "..".toList then output
    else removeDotsFrom (rest.dropWhile (· != '/')) (output ++ c :: rest.takeWhile (· != '/'))
termination_by input.length
decreasing_by
  all_goals first
    | exact Nat.lt_succ_of_le (List.dropWhile_suffix _).length_le
    | (rw [List.length_drop, List.length_cons]; omega)
    | simp_all

/-- A path without dot segments. -/
def removeDots (path : List Char) : List Char := removeDotsFrom path []

/-! ## 2. A walk through folders -/

/-- A part of a path between slashes. -/
abbrev Segment := List Char

/-- A path with a slash before each of its segments. -/
def slashed (segments : List Segment) : List Char := segments.flatMap ('/' :: ·)

/-- The folder that one is in. -/
def dot : Segment := ['.']

/-- The folder above. -/
def dots : Segment := ['.', '.']

/-- Whether a segment is no name. -/
def isDotSegment (s : Segment) : Bool := s == dot || s == dots

/-- Goes into a folder, or stays, or goes to the folder above; there is none above the first one. -/
def enter (folders : List Segment) (s : Segment) : List Segment :=
  if s = dot then folders
  else if s = dots then folders.dropLast
  else folders ++ [s]

/-- The segments of a path that are gone into: the last one only when it is a dot segment. -/
def foldersOf : List Segment → List Segment
  | [] => []
  | [last] => if isDotSegment last then [last] else []
  | s :: next :: more => s :: foldersOf (next :: more)

/-- What a path names in the folder that it leads to. -/
def nameOf : List Segment → Segment
  | [] => []
  | [last] => if isDotSegment last then [] else last
  | _ :: next :: more => nameOf (next :: more)

section Walk

variable {s w : Segment} {more segments folders : List Segment} {output rest : List Char}

theorem slashed_cons : slashed (s :: more) = '/' :: (s ++ slashed more) := rfl

theorem slashed_append (a b : List Segment) : slashed (a ++ b) = slashed a ++ slashed b :=
  List.flatMap_append

/-- A path is cut at the first slash of what follows a segment. -/
theorem takeWhile_segment (hs : '/' ∉ s) :
    (s ++ slashed more).takeWhile (· != '/') = s ∧
      (s ++ slashed more).dropWhile (· != '/') = slashed more := by
  have hs' : ∀ c ∈ s, (c != '/') = true := fun c hc => bne_iff_ne.2 fun h => hs (h ▸ hc)
  rw [List.takeWhile_append_of_pos hs', List.dropWhile_append_of_pos hs']
  cases more with
  | nil => exact ⟨List.append_nil s, rfl⟩
  | cons next more => simp [slashed_cons]

theorem withoutLast_slashed (hfolders : ∀ f ∈ folders, '/' ∉ f) :
    withoutLast (slashed folders) = slashed folders.dropLast := by
  obtain rfl | ⟨before, last, rfl⟩ := List.eq_nil_or_concat folders
  · rfl
  · have hlast : ∀ c ∈ last.reverse, (c != '/') = true := fun c hc =>
      bne_iff_ne.2 fun h => hfolders last (by simp) (h ▸ List.mem_reverse.1 hc)
    have hreverse : (slashed (before.concat last)).reverse =
        last.reverse ++ '/' :: (slashed before).reverse := by
      simp [slashed, List.concat_eq_append]
    rw [withoutLast, hreverse, List.dropWhile_append_of_pos hlast, List.concat_eq_append,
      List.dropLast_concat]
    simp

theorem removeDotsFrom_slash : removeDotsFrom ['/'] output = output ++ ['/'] := by
  simp [removeDotsFrom]

/-- Two paths have the same first segment when they are the same. -/
theorem append_slashed_inj {more' : List Segment} (hs : '/' ∉ s) (hw : '/' ∉ w) :
    s ++ slashed more = w ++ slashed more' ↔ s = w ∧ slashed more = slashed more' := by
  constructor
  · intro h
    have hfirst := congrArg (List.takeWhile (· != '/')) h
    have hrest := congrArg (List.dropWhile (· != '/')) h
    rw [(takeWhile_segment hs).1, (takeWhile_segment hw).1] at hfirst
    rw [(takeWhile_segment hs).2, (takeWhile_segment hw).2] at hrest
    exact ⟨hfirst, hrest⟩
  · rintro ⟨rfl, h⟩
    rw [h]

/-- A path begins with a segment and a slash when this is its first segment, and not its last. -/
theorem slash_prefix_slashed (hs : '/' ∉ s) (hw : '/' ∉ w) :
    '/' :: (w ++ ['/']) <+: slashed (s :: more) ↔ s = w ∧ more ≠ [] := by
  have hrest : ∀ rest, w ++ ['/'] ++ rest = w ++ slashed [rest] := by simp [slashed]
  rw [slashed_cons, List.cons_prefix_cons, and_iff_right rfl]
  constructor
  · rintro ⟨rest, h⟩
    rw [hrest, eq_comm, append_slashed_inj hs hw] at h
    refine ⟨h.1, ?_⟩
    rintro rfl
    cases h.2
  · rintro ⟨rfl, hmore⟩
    obtain ⟨next, rest, rfl⟩ := List.exists_cons_of_ne_nil hmore
    exact ⟨next ++ slashed rest, by simp [slashed_cons]⟩

/-- A path is a segment when this is its only one. -/
theorem slashed_eq_iff (hs : '/' ∉ s) (hw : '/' ∉ w) :
    slashed (s :: more) = '/' :: w ↔ s = w ∧ more = [] := by
  have hnil : w = w ++ slashed [] := (List.append_nil w).symm
  rw [slashed_cons, List.cons_inj_right, hnil, append_slashed_inj hs hw, ← hnil]
  cases more <;> simp [slashed]

/-- What is left after a dot segment: a path always has a last segment. -/
def orEmpty (segments : List Segment) : List Segment := if segments = [] then [[]] else segments

/-- **One segment less**, by the rule that applies. -/
theorem removeDotsFrom_cons (hs : '/' ∉ s) (more : List Segment) (output : List Char) :
    removeDotsFrom (slashed (s :: more)) output =
      if s = dot then removeDotsFrom (slashed (orEmpty more)) output
      else if s = dots then removeDotsFrom (slashed (orEmpty more)) (withoutLast output)
      else removeDotsFrom (slashed more) (output ++ slashed [s]) := by
  have hdot : "/./".toList <+: slashed (s :: more) ↔ s = dot ∧ more ≠ [] :=
    @slash_prefix_slashed s dot more hs (by decide)
  have hdots : "/../".toList <+: slashed (s :: more) ↔ s = dots ∧ more ≠ [] :=
    @slash_prefix_slashed s dots more hs (by decide)
  have hdot' : slashed (s :: more) = "/.".toList ↔ s = dot ∧ more = [] :=
    slashed_eq_iff hs (by decide)
  have hdots' : slashed (s :: more) = "/..".toList ↔ s = dots ∧ more = [] :=
    slashed_eq_iff hs (by decide)
  rw [slashed_cons] at *
  rw [removeDotsFrom, if_neg (by simp), if_neg (by simp)]
  simp only [hdot, hdots, hdot', hdots', (takeWhile_segment hs).1, (takeWhile_segment hs).2]
  by_cases h : s = dot
  · subst h
    cases more <;> simp [orEmpty, slashed, dot]
  · by_cases h' : s = dots
    · subst h'
      cases more <;> simp [orEmpty, slashed, dots, dot]
    · simp [h, h', slashed]

/-- A folder that one is in was one before, or its name was gone into. -/
theorem mem_enter {f : Segment} (h : f ∈ enter folders s) :
    f ∈ folders ∨ f = s ∧ isDotSegment s = false := by
  unfold enter at h
  split at h
  · exact .inl h
  · rename_i hdot
    split at h
    · exact .inl (List.dropLast_subset _ h)
    · rename_i hdots
      refine (List.mem_append.1 h).imp_right fun h => ⟨List.mem_singleton.1 h, ?_⟩
      simp [isDotSegment, hdot, hdots]

theorem mem_foldl_enter {f : Segment} : ∀ {segments folders : List Segment},
    f ∈ segments.foldl enter folders → f ∈ folders ∨ f ∈ segments ∧ isDotSegment f = false
  | [], _, h => .inl h
  | s :: segments, folders, h => by
    rcases @mem_foldl_enter f segments _ h with h | ⟨hmem, hname⟩
    · exact (mem_enter h).imp_right fun h => by
        obtain ⟨rfl, hname⟩ := h
        exact ⟨List.mem_cons_self, hname⟩
    · exact .inr ⟨List.mem_cons_of_mem _ hmem, hname⟩

/-- Names are all gone into. -/
theorem foldl_enter_names : ∀ {segments folders : List Segment},
    (∀ f ∈ segments, isDotSegment f = false) → segments.foldl enter folders = folders ++ segments
  | [], _, _ => (List.append_nil _).symm
  | s :: segments, folders, h => by
    obtain ⟨hdot, hdots⟩ := Bool.or_eq_false_iff.1 (h s List.mem_cons_self)
    rw [List.foldl_cons, foldl_enter_names fun f hf => h f (List.mem_cons_of_mem _ hf), enter,
      if_neg (beq_eq_false_iff_ne.1 hdot), if_neg (beq_eq_false_iff_ne.1 hdots), List.append_assoc,
      List.singleton_append]

theorem length_foldl_enter_le : ∀ segments folders : List Segment,
    (segments.foldl enter folders).length ≤ folders.length + segments.length
  | [], _ => Nat.le_refl _
  | s :: segments, folders => by
    have hstep : (enter folders s).length ≤ folders.length + 1 := by
      unfold enter
      split
      · exact Nat.le_succ _
      · split
        · rw [List.length_dropLast]
          omega
        · rw [List.length_append, List.length_singleton]
    have ih := length_foldl_enter_le segments (enter folders s)
    rw [List.foldl_cons, List.length_cons]
    omega

/-- **The rules are a walk**: the folders are gone into one after the other, and the last segment is a
name in the last of them. -/
theorem removeDotsFrom_slashed : ∀ {segments folders : List Segment}, segments ≠ [] →
    (∀ s ∈ segments, '/' ∉ s) → (∀ f ∈ folders, '/' ∉ f) →
      removeDotsFrom (slashed segments) (slashed folders) =
        slashed ((foldersOf segments).foldl enter folders ++ [nameOf segments])
  | [], _, hne, _, _ => absurd rfl hne
  | [last], folders, _, hsegments, hfolders => by
    rw [removeDotsFrom_cons (hsegments last List.mem_cons_self), withoutLast_slashed hfolders,
      slashed_append]
    have hslash : slashed (orEmpty []) = ['/'] := rfl
    split
    · rename_i hdot
      subst hdot
      rw [hslash, removeDotsFrom_slash]
      rfl
    · split
      · rename_i hdots
        subst hdots
        rw [hslash, removeDotsFrom_slash]
        rfl
      · rename_i hdot hdots
        simp [foldersOf, nameOf, isDotSegment, hdot, hdots, slashed, removeDotsFrom]
  | s :: next :: more, folders, _, hsegments, hfolders => by
    have hrest : ∀ t ∈ next :: more, '/' ∉ t := fun t ht => hsegments t (List.mem_cons_of_mem _ ht)
    have hs := hsegments s List.mem_cons_self
    have hentered : ∀ f ∈ enter folders s, '/' ∉ f := fun f hf =>
      (mem_enter hf).elim (hfolders f) fun h => h.1 ▸ hs
    have ih := removeDotsFrom_slashed (List.cons_ne_nil next more) hrest hentered
    rw [foldersOf, nameOf, List.foldl_cons, ← ih, removeDotsFrom_cons hs,
      withoutLast_slashed hfolders, ← slashed_append, enter]
    have hnext : orEmpty (next :: more) = next :: more := rfl
    rw [hnext]
    split
    · rfl
    · split <;> rfl

/-! ## 3. Routes -/

/-- What a walk amounts to: some folders up, and then into others. -/
structure Route where
  up : Nat
  names : List Segment
  deriving DecidableEq, Repr

namespace Route

/-- One segment more. -/
def enter (r : Route) (s : Segment) : Route :=
  if s = dot then r
  else if s = dots then
    if r.names = [] then ⟨r.up + 1, []⟩ else ⟨r.up, r.names.dropLast⟩
  else ⟨r.up, r.names ++ [s]⟩

/-- The route through some segments. -/
def through (segments : List Segment) : Route := segments.foldl enter ⟨0, []⟩

/-- Where a route leads. -/
def follow (r : Route) (folders : List Segment) : List Segment :=
  folders.take (folders.length - r.up) ++ r.names

/-- One segment more is one step more, wherever the route begins. -/
theorem follow_enter (r : Route) (s : Segment) (folders : List Segment) :
    (r.enter s).follow folders = Address.enter (r.follow folders) s := by
  obtain ⟨up, names⟩ := r
  unfold enter Address.enter
  split
  · rfl
  · split
    · by_cases hnames : names = []
      · subst hnames
        simp only [if_true, follow, List.append_nil, List.dropLast_eq_take, List.length_take,
          List.take_take]
        congr 1
        omega
      · simp only [if_neg hnames, follow, List.dropLast_append_of_ne_nil hnames]
    · simp only [follow, List.append_assoc]

/-- **A walk is its route**, wherever it begins. -/
theorem foldl_enter (segments folders : List Segment) :
    segments.foldl Address.enter folders = (through segments).follow folders := by
  have hfold : ∀ (segments : List Segment) (r : Route),
      segments.foldl Address.enter (r.follow folders) = (segments.foldl enter r).follow folders := by
    intro segments
    induction segments with
    | nil => exact fun _ => rfl
    | cons s segments ih =>
      intro r
      rw [List.foldl_cons, List.foldl_cons, ← follow_enter]
      exact ih _
  have hstart : (⟨0, []⟩ : Route).follow folders = folders := by simp [follow]
  rw [through, ← hfold, hstart]

/-- Only the segments for the folder above lead up. -/
theorem up_through_le (segments : List Segment) : (through segments).up ≤ segments.count dots := by
  have hfold : ∀ (segments : List Segment) (r : Route),
      (segments.foldl enter r).up ≤ r.up + segments.count dots := by
    intro segments
    induction segments with
    | nil => exact fun _ => Nat.le_refl _
    | cons s segments ih =>
      intro r
      have hstep : (r.enter s).up ≤ r.up + if s == dots then 1 else 0 := by
        unfold enter
        split
        · exact Nat.le_add_right _ _
        · split
          · rename_i hdots
            subst hdots
            split <;> simp
          · exact Nat.le_add_right _ _
      have := ih (r.enter s)
      rw [List.foldl_cons, List.count_cons]
      omega
  simpa [through] using hfold segments ⟨0, []⟩

end Route

end Walk

/-! ## 4. Paths -/

/-- A character that ends no path: a query or a fragment begins with the others. -/
def inPath (c : Char) : Bool := c != '?' && c != '#'

/-- A character that ends neither a host nor a segment. -/
def inHost (c : Char) : Bool := !endsAuthority false c

/-- A character that ends no scheme. -/
def inScheme (c : Char) : Bool := c != ':' && !endsAuthority false c

theorem inHost_iff {c : Char} : inHost c = true ↔ inPath c = true ∧ c ≠ '/' := by
  simp only [inHost, endsAuthority, inPath, Bool.not_eq_true', Bool.or_eq_false_iff,
    Bool.and_eq_true, beq_eq_false_iff_ne, bne_iff_ne]
  tauto

section Cut

variable {c : Char} {s first : Segment} {rest text : List Char} {more : List Segment}

theorem cutAt_slash (rest : List Char) : cutAt '/' ('/' :: rest) = [] :: cutAt '/' rest := rfl

theorem cutAt_cons (hc : c ≠ '/') (h : cutAt '/' rest = first :: more) :
    cutAt '/' (c :: rest) = (c :: first) :: more := by
  rw [cutAt] at h ⊢
  rw [List.foldr_cons, h]
  simp [hc]

theorem cutAt_ne_nil : ∀ text : List Char, cutAt '/' text ≠ []
  | [] => List.cons_ne_nil _ _
  | c :: rest => by
    by_cases hc : c = '/'
    · subst hc
      exact List.cons_ne_nil _ _
    · obtain ⟨first, more, h⟩ := List.exists_cons_of_ne_nil (cutAt_ne_nil rest)
      rw [cutAt_cons hc h]
      exact List.cons_ne_nil _ _

/-- The segments of a text are the text again, with a slash before it. -/
theorem slashed_cutAt : ∀ text : List Char, slashed (cutAt '/' text) = '/' :: text
  | [] => rfl
  | c :: rest => by
    have ih := slashed_cutAt rest
    by_cases hc : c = '/'
    · subst hc
      rw [cutAt_slash, slashed_cons, ih]
      rfl
    · obtain ⟨first, more, h⟩ := List.exists_cons_of_ne_nil (cutAt_ne_nil rest)
      rw [h, slashed_cons, List.cons_inj_right] at ih
      rw [cutAt_cons hc h, slashed_cons, List.cons_append, ih]

theorem not_mem_of_mem_cutAt : ∀ {text : List Char} {s : Segment}, s ∈ cutAt '/' text → '/' ∉ s
  | [], s, h => by
    obtain rfl := List.mem_singleton.1 h
    exact List.not_mem_nil
  | c :: rest, s, h => by
    by_cases hc : c = '/'
    · subst hc
      rcases List.mem_cons.1 h with rfl | h
      · exact List.not_mem_nil
      · exact not_mem_of_mem_cutAt h
    · obtain ⟨first, more, hcut⟩ := List.exists_cons_of_ne_nil (cutAt_ne_nil rest)
      rw [cutAt_cons hc hcut] at h
      rcases List.mem_cons.1 h with rfl | h
      · have hfirst : '/' ∉ first := not_mem_of_mem_cutAt (hcut ▸ List.mem_cons_self)
        exact fun hmem => (List.mem_cons.1 hmem).elim (fun heq => hc heq.symm) hfirst
      · exact not_mem_of_mem_cutAt (hcut ▸ List.mem_cons_of_mem _ h)

/-- So many segments for the folder above need their characters and the slashes between them. -/
theorem three_mul_count_dots_le (text : List Char) :
    3 * (cutAt '/' text).count dots ≤ text.length + 1 := by
  have hlength : ∀ segments : List Segment, 3 * segments.count dots ≤ (slashed segments).length := by
    intro segments
    induction segments with
    | nil => exact Nat.le_refl _
    | cons s segments ih =>
      rw [slashed_cons, List.count_cons, List.length_cons, List.length_append]
      split
      · rename_i hs
        have hlength : s.length = 2 := by rw [beq_iff_eq.1 hs, dots, List.length_cons]; rfl
        omega
      · omega
  have := hlength (cutAt '/' text)
  rwa [slashed_cutAt, List.length_cons] at this

theorem foldersOf_sublist : ∀ segments : List Segment, (foldersOf segments).Sublist segments
  | [] => .slnil
  | [last] => by
    unfold foldersOf
    split
    · exact .refl _
    · exact List.nil_sublist _
  | _ :: next :: more => (foldersOf_sublist (next :: more)).cons_cons _

/-- Only the last segment may be no folder. -/
theorem foldersOf_append {a b : List Segment} (hb : b ≠ []) :
    foldersOf (a ++ b) = a ++ foldersOf b ∧ nameOf (a ++ b) = nameOf b := by
  obtain ⟨first, more, rfl⟩ := List.exists_cons_of_ne_nil hb
  induction a with
  | nil => exact ⟨rfl, rfl⟩
  | cons s a ih =>
    cases a with
    | nil => exact ⟨rfl, rfl⟩
    | cons t a => exact ⟨congrArg (s :: ·) ih.1, ih.2⟩

theorem nameOf_mem : ∀ {segments : List Segment}, segments ≠ [] →
    nameOf segments = [] ∨ nameOf segments ∈ segments
  | [], h => absurd rfl h
  | [last], _ => by
    unfold nameOf
    split
    · exact .inl rfl
    · exact .inr List.mem_cons_self
  | _ :: next :: more, _ =>
    (nameOf_mem (List.cons_ne_nil next more)).imp_right (List.mem_cons_of_mem _)

/-- What a text names in the folder that its path leads to. -/
def lastOf (text : List Char) : Segment := nameOf (cutAt '/' (text.takeWhile inPath))

/-- The name that a path ends with is a segment of it. -/
theorem inHost_lastOf (text : List Char) : ∀ c ∈ lastOf text, inHost c = true := by
  intro c hc
  rcases nameOf_mem (cutAt_ne_nil (text.takeWhile inPath)) with hempty | hmem
  · rw [lastOf, hempty] at hc
    cases hc
  · have hslash : c ≠ '/' := by
      rintro rfl
      exact not_mem_of_mem_cutAt hmem hc
    have hpath : c ∈ slashed (cutAt '/' (text.takeWhile inPath)) :=
      List.mem_flatMap.2 ⟨_, hmem, List.mem_cons_of_mem _ hc⟩
    rw [slashed_cutAt] at hpath
    exact inHost_iff.2 ⟨List.mem_takeWhile_imp ((List.mem_cons.1 hpath).resolve_left hslash), hslash⟩

/-- What is left behind a path begins where the path ends. -/
theorem head_dropWhile_inPath (text : List Char) :
    ∀ c ∈ (text.dropWhile inPath).head?, inPath c = false := by
  intro c hc
  have := List.head?_dropWhile_not inPath text
  rw [hc] at this
  simpa using this

/-- The route that a text takes through its path. -/
def routeOf (text : List Char) : Route :=
  Route.through (foldersOf (cutAt '/' (text.takeWhile inPath)))

/-- How far up a route leads at most. -/
theorem up_routeOf (text : List Char) : 3 * (routeOf text).up ≤ text.length + 1 := by
  have hup := Route.up_through_le (foldersOf (cutAt '/' (text.takeWhile inPath)))
  have hcount := (foldersOf_sublist (cutAt '/' (text.takeWhile inPath))).count_le dots
  have hthree := three_mul_count_dots_le (text.takeWhile inPath)
  have hlength := (List.takeWhile_prefix inPath (l := text)).length_le
  unfold routeOf
  omega

/-- So many folders up. -/
def upwards : Nat → List Char
  | 0 => []
  | n + 1 => '.' :: '.' :: '/' :: upwards n

theorem inPath_upwards : ∀ n, (upwards n).takeWhile inPath = upwards n
  | 0 => rfl
  | n + 1 => congrArg ('.' :: '.' :: '/' :: ·) (inPath_upwards n)

theorem foldersOf_upwards (n : Nat) : foldersOf (cutAt '/' (upwards n)) = List.replicate n dots := by
  have hcut : cutAt '/' (upwards n) = List.replicate n dots ++ [[]] := by
    induction n with
    | zero => rfl
    | succ n ih =>
      rw [upwards, List.replicate_succ, List.cons_append, ← ih]
      rfl
  rw [hcut, (foldersOf_append (List.cons_ne_nil [] [])).1]
  exact List.append_nil _

theorem routeOf_upwards (n : Nat) : routeOf (upwards n) = ⟨n, []⟩ := by
  have hfold : ∀ n up : Nat, (List.replicate n dots).foldl Route.enter ⟨up, []⟩ = ⟨up + n, []⟩ := by
    intro n
    induction n with
    | zero => exact fun _ => rfl
    | succ n ih =>
      intro up
      rw [List.replicate_succ, List.foldl_cons]
      exact (ih (up + 1)).trans (congrArg (Route.mk · []) (by omega))
  rw [routeOf, inPath_upwards, foldersOf_upwards, Route.through, hfold, Nat.zero_add]

end Cut

/-! ## 5. Beginnings of paths -/

/-- Two texts are one up to where each first stops, when one begins with the other. -/
theorem append_cons_prefix_iff {p : Char → Bool} {c d : Char} (hc : p c = true)
    (hd : p d = true) {u v : List Char} : ∀ {s t : List Char}, (∀ x ∈ s, p x = false) →
      (∀ x ∈ t, p x = false) → (s ++ c :: u <+: t ++ d :: v ↔ s = t ∧ c = d ∧ u <+: v)
  | [], [], _, _ => by simp [List.cons_prefix_cons]
  | [], y :: t, _, ht => by
    have hy := ht y List.mem_cons_self
    refine iff_of_false (fun h => ?_) (fun h => absurd h.1 (by simp))
    rw [(List.cons_prefix_cons.1 h).1, hy] at hc
    cases hc
  | x :: s, [], hs, _ => by
    have hx := hs x List.mem_cons_self
    refine iff_of_false (fun h => ?_) (fun h => absurd h.1 (by simp))
    rw [← (List.cons_prefix_cons.1 h).1, hx] at hd
    cases hd
  | x :: s, y :: t, hs, ht => by
    have ih := @append_cons_prefix_iff p c d hc hd u v s t
      (fun z hz => hs z (List.mem_cons_of_mem _ hz)) (fun z hz => ht z (List.mem_cons_of_mem _ hz))
    rw [List.cons_append, List.cons_append, List.cons_prefix_cons, ih, List.cons.injEq, and_assoc]

theorem exists_slashed_concat (folders : List Segment) (name : Segment) :
    ∃ path, slashed (folders ++ [name]) = '/' :: path := by
  cases folders with
  | nil => exact ⟨_, rfl⟩
  | cons f folders => exact ⟨_, rfl⟩

/-- **Folders at the beginning of a path** are those that it leads to. -/
theorem slashed_prefix_iff {name : Segment} {tail : List Char}
    (hname : ∀ c ∈ name, inHost c = true) (htail : ∀ c ∈ tail.head?, inPath c = false) :
    ∀ {folders reached : List Segment}, (∀ f ∈ folders, ∀ c ∈ f, inHost c = true) →
      (∀ f ∈ reached, '/' ∉ f) →
        (slashed (folders ++ [[]]) <+: slashed (reached ++ [name]) ++ tail ↔ folders <+: reached)
  | [], [], _, _ => by simp [slashed]
  | [], f :: reached, _, _ => by simp [slashed]
  | f :: folders, [], hfolders, _ => by
    -- a name is in no folder
    refine iff_of_false (fun h => ?_) (by simp)
    obtain ⟨path, hpath⟩ := exists_slashed_concat folders []
    rw [List.cons_append, slashed_cons, hpath, List.nil_append, slashed_cons, List.cons_append,
      List.cons_prefix_cons, slashed, List.flatMap_nil, List.append_nil] at h
    cases tail with
    | nil =>
      have hmem := h.2.subset (List.mem_append_right f List.mem_cons_self)
      rw [List.append_nil] at hmem
      exact (inHost_iff.1 (hname _ hmem)).2 rfl
    | cons d tail =>
      have hd : inPath d = false := htail d rfl
      have hstops : (!inHost d) = true := by
        cases hhost : inHost d with
        | false => rfl
        | true => exact absurd (inHost_iff.1 hhost).1 (by simp [hd])
      have hcut := (append_cons_prefix_iff (p := (!inHost ·)) (by rfl) hstops
        (fun c hc => by simp [hfolders f List.mem_cons_self c hc])
        (fun c hc => by simp [hname c hc])).1 h.2
      rw [← hcut.2.1] at hd
      cases hd
  | f :: folders, g :: reached, hfolders, hreached => by
    have ih := @slashed_prefix_iff name tail hname htail folders reached
      (fun f' hf => hfolders f' (List.mem_cons_of_mem _ hf))
      (fun f' hf => hreached f' (List.mem_cons_of_mem _ hf))
    obtain ⟨path, hpath⟩ := exists_slashed_concat folders []
    obtain ⟨path', hpath'⟩ := exists_slashed_concat reached name
    rw [hpath, hpath', List.cons_append, List.cons_prefix_cons] at ih
    rw [List.cons_append, List.cons_append, slashed_cons, slashed_cons, hpath, hpath',
      List.cons_append, List.cons_prefix_cons, List.append_assoc, List.cons_append,
      append_cons_prefix_iff (p := (· == '/')) rfl rfl
        (fun c hc => beq_eq_false_iff_ne.2
          (inHost_iff.1 (hfolders f List.mem_cons_self c hc)).2)
        (fun c hc => beq_eq_false_iff_ne.2
          fun heq => hreached g List.mem_cons_self (heq ▸ hc)), ih, List.cons_prefix_cons]
    simp

/-! ## 6. Addresses -/

/-- The scheme at the start of an address, with its colon. -/
def schemePart (text : List Char) : List Char :=
  let scheme := text.takeWhile inScheme
  if scheme ≠ [] ∧ (text.drop scheme.length).head? = some ':' then scheme ++ [':'] else []

/-- The authority at the start of what follows a scheme, with its slashes. -/
def authorityPart (text : List Char) : List Char :=
  if "//".toList <+: text then '/' :: '/' :: (text.drop 2).takeWhile inHost else []

/-- An address with the dot segments taken out of its path. -/
def resolved (address : List Char) : List Char :=
  let scheme := schemePart address
  let authority := authorityPart (address.drop scheme.length)
  let path := (address.drop scheme.length).drop authority.length
  scheme ++ authority ++ removeDots (path.takeWhile inPath) ++ path.dropWhile inPath

example : resolved "https://a.example/b/../c?d=/../e".toList = "https://a.example/c?d=/../e".toList := by
  decide +kernel

end WikiPage.Address
