import WikiPage.Shortcode.Marker
import WikiPage.Shortcode.Params
import WikiPage.Text.Quoted
/-!
# Registered shortcodes

A shortcode has a tag and a handler that makes a node from its parameters, and from the nodes between its
markers when it has a closing one.  A registry holds shortcodes with different tags.  Main statement:
`tagsFault?_eq_none_iff`, which lists of tags make a registry.
-/

namespace WikiPage

namespace Shortcode

/-- Nodes after expansion, with the warnings given on the way. -/
structure Expansion where
  nodes : List Node
  warnings : List String
  deriving DecidableEq, Repr, Inhabited

/-- What a handler is told about the place that it works for. -/
structure Context where
  tag : String
  /-- The opening marker, or everything from the opening to the closing one. -/
  span : Option Span
  /-- The line of the opening marker, from one, when the source is known. -/
  line : Option Nat
  /-- Expands shortcodes among given nodes by the same registry. -/
  expand : List Node → Expansion

/-- A message about a tag, with the line where it stands. -/
def located (line : Option Nat) (message : String) : String :=
  match line with
  | some line => "line " ++ toString line ++ ": " ++ message
  | none => message

/-- A tag between the braces of a marker. -/
def braced (text : String) : String := "\x7b\x7b" ++ text ++ "\x7d\x7d"

/-- A warning from a handler. -/
def Context.warning (c : Context) (message : String) : String :=
  located c.line (braced c.tag ++ ": " ++ message)

/-- How a shortcode is replaced, with warnings. -/
inductive Handler where
  /-- By its parameters and the nodes between its two markers. -/
  | block (make : Params → List Node → Context → Node × List String)
  /-- By its parameters; it has no closing marker. -/
  | inline (make : Params → Context → Node × List String)

/-- Whether a handler needs a closing marker. -/
def Handler.isBlock : Handler → Bool
  | block _ => true
  | inline _ => false

end Shortcode

/-- A shortcode: its tag, its handler, and the address that its frames begin with if it makes frames. -/
structure Shortcode where
  name : String
  handler : Shortcode.Handler
  embedSource : Option String := none

namespace Shortcode

/-- Why shortcodes do not make a registry. -/
inductive RegistryError where
  | duplicate (name : String)
  | emptyName
  | invalidName (name : String)
  deriving DecidableEq, Repr, Inhabited

/-- The wording of a fault. -/
def RegistryError.message : RegistryError → String
  | duplicate name => "shortcode " ++ Text.quote name ++ " is registered more than once"
  | emptyName => "shortcode name must not be empty"
  | invalidName name =>
    "invalid shortcode name " ++ Text.quote name ++ ": use letters, digits, '-' and '_'"

/-- What is wrong with a tag, when certain tags are taken. -/
def tagFault? (taken : List String) (name : String) : Option RegistryError :=
  if name.isEmpty then some .emptyName
  else if !name.toList.all isNameChar then some (.invalidName name)
  else if taken.contains name then some (.duplicate name)
  else none

/-- The first thing wrong with tags in a row, when certain tags are taken. -/
def tagsFault? (taken : List String) : List String → Option RegistryError
  | [] => none
  | name :: rest => (tagFault? taken name).or (tagsFault? (name :: taken) rest)

/-- Tags make a registry when each is a name and none occurs twice or is taken. -/
theorem tagsFault?_eq_none_iff : ∀ {names taken : List String},
    tagsFault? taken names = none ↔
      (∀ name ∈ names, name.isEmpty = false ∧ name.toList.all isNameChar = true ∧ name ∉ taken) ∧
        names.Nodup
  | [], _ => by simp [tagsFault?]
  | name :: rest, taken => by
    have ih := @tagsFault?_eq_none_iff rest (name :: taken)
    have hname : tagFault? taken name = none ↔
        name.isEmpty = false ∧ name.toList.all isNameChar = true ∧ name ∉ taken := by
      unfold tagFault?
      cases h₁ : name.isEmpty with
      | true => simp
      | false =>
        cases h₂ : name.toList.all isNameChar with
        | false => simp
        | true => by_cases h₃ : name ∈ taken <;> simp [h₃]
    simp only [tagsFault?, Option.or_eq_none_iff, hname, ih, List.nodup_cons, List.mem_cons, not_or,
      forall_eq_or_imp]
    constructor
    · rintro ⟨h, hrest, hnodup⟩
      exact ⟨⟨h, fun m hm => ⟨(hrest m hm).1, (hrest m hm).2.1, (hrest m hm).2.2.2⟩⟩,
        fun hm => (hrest name hm).2.2.1 rfl, hnodup⟩
    · rintro ⟨⟨h, hrest⟩, hnot, hnodup⟩
      exact ⟨h, fun m hm => ⟨(hrest m hm).1, (hrest m hm).2.1,
        fun heq => hnot (heq ▸ hm), (hrest m hm).2.2⟩, hnodup⟩

/-- Shortcodes with different tags, in the order in which they were given. -/
structure Registry where
  shortcodes : List Shortcode
  usable : tagsFault? [] (shortcodes.map Shortcode.name) = none

namespace Registry

/-- The registry without shortcodes. -/
def empty : Registry := ⟨[], rfl⟩

instance : Inhabited Registry := ⟨empty⟩

/-- The registry of some shortcodes, or the first thing wrong with their tags. -/
def ofList (shortcodes : List Shortcode) : Except RegistryError Registry :=
  match h : tagsFault? [] (shortcodes.map Shortcode.name) with
  | some fault => .error fault
  | none => .ok ⟨shortcodes, h⟩

/-- The shortcode with a tag. -/
def get? (r : Registry) (tag : String) : Option Shortcode := r.shortcodes.find? (·.name == tag)

/-- A registered tag is a name. -/
theorem isName_of_mem {r : Registry} {s : Shortcode} (hs : s ∈ r.shortcodes) :
    s.name.toList ≠ [] ∧ ∀ c ∈ s.name.toList, isNameChar c = true := by
  obtain ⟨hne, hname, -⟩ := (tagsFault?_eq_none_iff.1 r.usable).1 s.name (List.mem_map_of_mem hs)
  refine ⟨fun h => ?_, List.all_eq_true.1 hname⟩
  rw [String.toList_eq_nil_iff.1 h] at hne
  cases hne

/-- A shortcode is found by its tag. -/
theorem get?_of_mem {r : Registry} {s : Shortcode} (hs : s ∈ r.shortcodes) :
    r.get? s.name = some s := by
  have hnodup := (tagsFault?_eq_none_iff.1 r.usable).2
  obtain ⟨before, after, hsplit⟩ := List.append_of_mem hs
  rw [hsplit, List.map_append, List.nodup_append] at hnodup
  rw [get?, hsplit, List.find?_append, List.find?_eq_none.2 fun t ht => ?_]
  · simp
  · exact fun heq => hnodup.2.2 t.name (List.mem_map_of_mem ht) s.name List.mem_cons_self
      (beq_iff_eq.1 heq)

/-- Whether a tag is registered. -/
def contains (r : Registry) (tag : String) : Bool := (r.get? tag).isSome

/-- The tags, sorted. -/
def tags (r : Registry) : List String :=
  (r.shortcodes.map Shortcode.name).mergeSort fun a b => decide (a ≤ b)

/-- Number of shortcodes. -/
def size (r : Registry) : Nat := r.shortcodes.length

/-- The addresses that frames of the shortcodes begin with. -/
def embedSources (r : Registry) : List String := r.shortcodes.filterMap Shortcode.embedSource

end Registry

/-- An opening marker of a registered shortcode. -/
structure Directive where
  shortcode : Shortcode
  params : Params

/-- The registered shortcode that a node opens. -/
def Registry.recognize? (r : Registry) (n : Node) : Option Directive :=
  match opening? n with
  | none => none
  | some opening => (r.get? opening.tag).map (⟨·, Params.parse opening.params⟩)

end Shortcode

end WikiPage
