import Mathlib.Data.List.Nodup
import WikiPage.Config.Settings
import WikiPage.Proofs.Pipeline
/-!
# Which configurations give a pipeline

The shortcodes of a site make a registry when each of their names can stand in a marker and none comes
twice.  Otherwise the first name that does not fit says what is wrong; names are looked at in order, the
kinds of hint before the other shortcodes.

* `Offends` says what is wrong with a name behind others, and `tagsFault?_eq_some_iff` which one is found.
* `hintsFault?_eq_none_iff`: checking a configuration has looked at its hints already, but not at the
  other names, nor at which characters a name has.

Main statement: `pipeline_names`.
-/

namespace WikiPage

/-! ## 1. Names of shortcodes -/

namespace Shortcode

/-- Whether a name can stand in a marker: some ASCII letters, digits, hyphens and underscores. -/
def IsTag (name : String) : Prop :=
  name ≠ "" ∧ ∀ c ∈ name.toList, c.isAlphanum = true ∨ c = '-' ∨ c = '_'

/-- What is wrong with a name behind others: it is empty, or else no name, or else one of them. -/
inductive Offends (before : List String) : String → RegistryError → Prop where
  | empty : Offends before "" .emptyName
  | invalid {name} (hne : name ≠ "") (hname : ¬ IsTag name) : Offends before name (.invalidName name)
  | repeated {name} (hname : IsTag name) (hmem : name ∈ before) :
    Offends before name (.duplicate name)

theorem isTag_iff {name : String} :
    IsTag name ↔ name.isEmpty = false ∧ name.toList.all isNameChar = true := by
  simp only [IsTag, isNameChar, List.all_eq_true, Bool.or_eq_true, beq_iff_eq, or_assoc,
    Bool.eq_false_iff, Ne, String.isEmpty_iff]

instance (name : String) : Decidable (IsTag name) := decidable_of_iff _ isTag_iff.symm

/-- It matters which names are before, but not in which order. -/
theorem Offends.congr {before before' : List String} {name : String} {fault : RegistryError}
    (h : Offends before name fault) (hmem : ∀ m, m ∈ before ↔ m ∈ before') :
    Offends before' name fault := by
  cases h with
  | empty => exact .empty
  | invalid hne hname => exact .invalid hne hname
  | repeated hname hbefore => exact .repeated hname ((hmem _).1 hbefore)

theorem tagFault?_eq_some_iff {taken : List String} {name : String} {fault : RegistryError} :
    tagFault? taken name = some fault ↔ Offends taken name fault := by
  have hempty : name.isEmpty = true ↔ name = "" := String.isEmpty_iff
  unfold tagFault?
  constructor
  · intro h
    split at h
    · rename_i hname
      cases h
      rw [hempty.1 hname]
      exact .empty
    rename_i hne
    have hisTag : IsTag name ↔ name.toList.all isNameChar = true := by
      rw [isTag_iff, Bool.eq_false_iff.2 hne, eq_self, true_and]
    split at h
    · rename_i hname
      cases h
      exact .invalid (fun heq => hne (hempty.2 heq)) fun htag => by
        rw [hisTag.1 htag] at hname
        cases hname
    rename_i hname
    split at h
    · rename_i hmem
      cases h
      exact .repeated (hisTag.2 (by simpa using hname)) (List.contains_iff_mem.1 hmem)
    · cases h
  · intro h
    cases h with
    | empty => rfl
    | invalid hne hname =>
      have hnot : name.toList.all isNameChar = false := Bool.eq_false_iff.2 fun hall =>
        hname (isTag_iff.2 ⟨Bool.eq_false_iff.2 fun heq => hne (hempty.1 heq), hall⟩)
      rw [if_neg fun heq => hne (hempty.1 heq), hnot]
      rfl
    | repeated hname hmem =>
      obtain ⟨hne, hall⟩ := isTag_iff.1 hname
      rw [hne, hall, List.contains_iff_mem.2 hmem]
      rfl

/-- **The first name that does not fit is found**, with what is wrong with it behind those before. -/
theorem tagsFault?_eq_some_iff {names taken : List String} {fault : RegistryError} :
    tagsFault? taken names = some fault ↔
      ∃ before name after, names = before ++ name :: after ∧ tagsFault? taken before = none ∧
        Offends (before ++ taken) name fault := by
  induction names generalizing taken with
  | nil => simp [tagsFault?]
  | cons first rest ih =>
    rw [tagsFault?, Option.or_eq_some_iff, tagFault?_eq_some_iff, ih]
    have hmem (before : List String) (m : String) :
        m ∈ before ++ first :: taken ↔ m ∈ first :: before ++ taken := by
      simp only [List.mem_append, List.mem_cons, or_assoc, or_left_comm]
    constructor
    · rintro (hfirst | ⟨hnone, before, name, after, rfl, hbefore, hname⟩)
      · exact ⟨[], first, rest, rfl, rfl, hfirst⟩
      · refine ⟨first :: before, name, after, rfl, ?_, hname.congr (hmem before)⟩
        rw [tagsFault?, hnone, hbefore]
        rfl
    · rintro ⟨before, name, after, hsplit, hbefore, hname⟩
      cases before with
      | nil =>
        cases hsplit
        exact .inl hname
      | cons _ before =>
        cases hsplit
        rw [tagsFault?, Option.or_eq_none_iff] at hbefore
        exact .inr ⟨hbefore.1, before, name, after, rfl, hbefore.2,
          hname.congr fun m => (hmem before m).symm⟩

theorem tagsFault?_nil_eq_none_iff {names : List String} :
    tagsFault? [] names = none ↔ (∀ name ∈ names, IsTag name) ∧ names.Nodup := by
  simp only [tagsFault?_eq_none_iff, isTag_iff, List.not_mem_nil, not_false_eq_true, and_true]

namespace Registry

theorem ofList_eq_ok {shortcodes : List Shortcode}
    (h : tagsFault? [] (shortcodes.map Shortcode.name) = none) :
    ofList shortcodes = .ok ⟨shortcodes, h⟩ := by
  unfold ofList
  split
  · rename_i fault hfault
    cases hfault.symm.trans h
  · rfl

theorem ofList_eq_error {shortcodes : List Shortcode} {fault : RegistryError}
    (h : tagsFault? [] (shortcodes.map Shortcode.name) = some fault) :
    ofList shortcodes = .error fault := by
  unfold ofList
  split
  · rename_i other hother
    cases hother.symm.trans h
    rfl
  · rename_i hnone
    cases hnone.symm.trans h

end Registry

end Shortcode

/-! ## 2. Configurations -/

namespace Config

open Shortcode

variable {c : Config}

/-- The names of the shortcodes of a site, in order. -/
def shortcodeNames (c : Config) : List String :=
  c.shortcodes.hints ++ ["blueprint"] ++ if c.shortcodes.versionGate then ["version"] else []

theorem mem_shortcodeNames {name : String} :
    name ∈ c.shortcodeNames ↔ name ∈ c.shortcodes.hints ∨ name = "blueprint" ∨
      c.shortcodes.versionGate = true ∧ name = "version" := by
  rw [shortcodeNames]
  cases c.shortcodes.versionGate <;> simp

theorem names_shortcodeList (c : Config) :
    c.shortcodeList.map Shortcode.name = c.shortcodeNames := by
  have hhints : (c.shortcodes.hints.map hint).map Shortcode.name = c.shortcodes.hints := by
    rw [List.map_map]
    exact List.map_id _
  rw [shortcodeList, shortcodeNames, List.map_append, List.map_append, hhints]
  split <;> rfl

/-- **What a configuration gives** is settled by its names: a pipeline whose registry has its shortcodes,
or the fault of the first name that does not fit. -/
theorem pipeline_cases (c : Config) :
    (tagsFault? [] c.shortcodeNames = none ∧
        ∃ p, c.pipeline = .ok p ∧ p.registry.shortcodes = c.shortcodeList) ∨
      ∃ fault, tagsFault? [] c.shortcodeNames = some fault ∧ c.pipeline = .error fault := by
  have hnames := congrArg (tagsFault? []) (names_shortcodeList c)
  cases hfault : tagsFault? [] c.shortcodeNames with
  | none => exact .inl ⟨rfl, _, by rw [pipeline, Registry.ofList_eq_ok (hnames.trans hfault)]; rfl, rfl⟩
  | some fault =>
    exact .inr ⟨fault, rfl, by rw [pipeline, Registry.ofList_eq_error (hnames.trans hfault)]; rfl⟩

theorem exists_pipeline_iff :
    (∃ p, c.pipeline = .ok p) ↔
      (∀ name ∈ c.shortcodeNames, IsTag name) ∧ c.shortcodeNames.Nodup := by
  rw [← tagsFault?_nil_eq_none_iff]
  obtain ⟨hnone, p, hp, -⟩ | ⟨fault, hsome, herror⟩ := pipeline_cases c
  · exact iff_of_true ⟨p, hp⟩ hnone
  · refine iff_of_false (fun ⟨p, hp⟩ => ?_) fun hnone => ?_
    · cases hp.symm.trans herror
    · cases hnone.symm.trans hsome

theorem pipeline_eq_error_iff {fault : RegistryError} :
    c.pipeline = .error fault ↔
      ∃ before name after, c.shortcodeNames = before ++ name :: after ∧
        (∀ m ∈ before, IsTag m) ∧ before.Nodup ∧ Offends before name fault := by
  have hsplit := @tagsFault?_eq_some_iff c.shortcodeNames [] fault
  simp only [tagsFault?_nil_eq_none_iff, List.append_nil, and_assoc] at hsplit
  rw [← hsplit]
  obtain ⟨hnone, p, hp, -⟩ | ⟨other, hsome, herror⟩ := pipeline_cases c
  · rw [hp, hnone]
    exact iff_of_false nofun nofun
  · rw [herror, hsome, Except.error.injEq, Option.some.injEq]

/-- The registry of a pipeline has the shortcodes of the configuration under their names. -/
theorem get?_pipeline {p : Pipeline} (hp : c.pipeline = .ok p) :
    p.registry.tags.Perm c.shortcodeNames ∧
      ∀ s ∈ c.shortcodeList, p.registry.get? s.name = some s := by
  obtain ⟨-, p', hp', hshortcodes⟩ | ⟨fault, -, herror⟩ := pipeline_cases c
  · obtain rfl := Except.ok.inj (hp.symm.trans hp')
    refine ⟨?_, fun s hs => Registry.get?_of_mem (hshortcodes ▸ hs)⟩
    rw [← names_shortcodeList, ← hshortcodes]
    exact List.mergeSort_perm _ _
  · cases hp.symm.trans herror

/-- Checking the kinds of hint: each is given, and none of them twice. -/
theorem hintsFault?_eq_none_iff {hints seen : List String} :
    hintsFault? seen hints = none ↔ (∀ hint ∈ hints, hint ≠ "" ∧ hint ∉ seen) ∧ hints.Nodup := by
  induction hints generalizing seen with
  | nil => simp [hintsFault?]
  | cons hint rest ih =>
    by_cases hempty : hint = ""
    · simp [hintsFault?, hempty]
    by_cases hseen : hint ∈ seen
    · simp [hintsFault?, hempty, hseen]
    · simp only [hintsFault?, String.isEmpty_iff, hempty, List.contains_iff_mem, hseen, if_false, ih,
        List.mem_cons, not_or, forall_eq_or_imp, List.nodup_cons]
      constructor
      · rintro ⟨hrest, hnodup⟩
        exact ⟨⟨⟨hempty, not_false⟩, fun m hm => ⟨(hrest m hm).1, (hrest m hm).2.2⟩⟩,
          fun hm => (hrest hint hm).2.1 rfl, hnodup⟩
      · rintro ⟨⟨-, hrest⟩, hnot, hnodup⟩
        exact ⟨fun m hm => ⟨(hrest m hm).1, fun heq => hnot (heq ▸ hm), (hrest m hm).2⟩, hnodup⟩

/-- **What a check has seen to**: a hint is given, and no other one has its name. -/
theorem hints_of_valid (h : c.fault? = none) :
    "" ∉ c.shortcodes.hints ∧ c.shortcodes.hints.Nodup := by
  unfold fault? at h
  split at h
  · cases h
  · obtain ⟨hall, hnodup⟩ := hintsFault?_eq_none_iff.1 (Option.or_eq_none_iff.1 h).1
    exact ⟨fun hmem => (hall "" hmem).1 rfl, hnodup⟩

/-- Among the names of a checked configuration, only those of the other shortcodes can come twice. -/
theorem repeated_of_valid (h : c.fault? = none) {before after : List String} {name : String}
    (hsplit : c.shortcodeNames = before ++ name :: after) (hmem : name ∈ before) :
    name = "blueprint" ∨ name = "version" := by
  refine Decidable.byContradiction fun hother => ?_
  obtain ⟨hblueprint, hversion⟩ := not_or.1 hother
  have hrest : (["blueprint"] ++ if c.shortcodes.versionGate then ["version"] else []).count name = 0 := by
    refine List.count_eq_zero_of_not_mem ?_
    split <;> simp [hblueprint, hversion]
  have honce := List.nodup_iff_count_le_one.1 (hints_of_valid h).2 name
  have htwice : 2 ≤ c.shortcodeNames.count name := by
    rw [hsplit, List.count_append, List.count_cons_self]
    have := List.count_pos_iff.2 hmem
    omega
  rw [shortcodeNames, List.append_assoc, List.count_append, hrest] at htwice
  omega

/-- **A configuration gives a pipeline exactly when its names fit**: the kinds of hint, then `blueprint`,
then `version` where there are parts for some versions.  Each is a name that can stand in a marker, and
none comes twice; then these are the tags of the registry, and only that of blueprints has no closing
marker.  Otherwise the error is that of the first name that does not fit: it is empty, or else no name, or
else one of those before it.  In a configuration that has been checked no name is empty, and only
`blueprint` and `version` can come twice. -/
theorem pipeline_names (c : Config) :
    ((∃ p, c.pipeline = .ok p) ↔
      (∀ name ∈ c.shortcodeNames, IsTag name) ∧ c.shortcodeNames.Nodup) ∧
    (∀ p, c.pipeline = .ok p →
      p.registry.tags.Perm c.shortcodeNames ∧
      (∀ hint ∈ c.shortcodes.hints, ∃ s, p.registry.get? hint = some s ∧ s.handler.isBlock = true) ∧
      (∃ s, p.registry.get? "blueprint" = some s ∧ s.handler.isBlock = false) ∧
      (c.shortcodes.versionGate = true →
        ∃ s, p.registry.get? "version" = some s ∧ s.handler.isBlock = true)) ∧
    (∀ fault, c.pipeline = .error fault ↔
      ∃ before name after, c.shortcodeNames = before ++ name :: after ∧
        (∀ m ∈ before, IsTag m) ∧ before.Nodup ∧ Offends before name fault) ∧
    (c.fault? = none → c.pipeline ≠ .error .emptyName ∧
      ∀ name, c.pipeline = .error (.duplicate name) → name = "blueprint" ∨ name = "version") := by
  refine ⟨exists_pipeline_iff, fun p hp => ?_, fun _ => pipeline_eq_error_iff,
    fun hvalid => ⟨fun h => ?_, fun name h => ?_⟩⟩
  · obtain ⟨htags, hget⟩ := get?_pipeline hp
    unfold shortcodeList at hget
    refine ⟨htags, fun kind hkind => ⟨hint kind, hget (hint kind) ?_, rfl⟩,
      ⟨blueprint c.shortcodes.blueprintAddress, hget (blueprint _) ?_, rfl⟩,
      fun hgate => ⟨versionGate, hget versionGate ?_, rfl⟩⟩
    · simp [List.mem_map_of_mem hkind]
    · simp
    · simp [hgate]
  · obtain ⟨before, _, after, hsplit, -, -, hname⟩ := pipeline_eq_error_iff.1 h
    cases hname
    have hmem : "" ∈ c.shortcodeNames := hsplit ▸ List.mem_append_right _ List.mem_cons_self
    rcases mem_shortcodeNames.1 hmem with hhint | hblueprint | ⟨-, hversion⟩
    · exact (hints_of_valid hvalid).1 hhint
    · exact absurd hblueprint (by decide)
    · exact absurd hversion (by decide)
  · obtain ⟨before, _, after, hsplit, -, -, hname⟩ := pipeline_eq_error_iff.1 h
    cases hname with
    | repeated _ hmem => exact repeated_of_valid hvalid hsplit hmem

/-- The usual configuration, and one more kind of hint. -/
def versionHints : Config := { shortcodes := { hints := hintKinds ++ ["version"] } }

/-- The usual configuration gives a pipeline; a kind of hint that has the name of another shortcode passes
the check, and is what is wrong with the registry. -/
theorem pipeline_names_versionHints :
    (∃ p, ({} : Config).pipeline = .ok p ∧
      p.registry.tags.Perm (hintKinds ++ ["blueprint", "version"])) ∧
    versionHints.fault? = none ∧ ∃ name, versionHints.pipeline = .error (.duplicate name) ∧
      name ∈ versionHints.shortcodes.hints ∧ (name = "blueprint" ∨ name = "version") := by
  obtain ⟨hpipeline, hregistry, -, -⟩ := pipeline_names {}
  obtain ⟨-, -, herror, hvalid⟩ := pipeline_names versionHints
  have hchecked : versionHints.fault? = none := by decide +kernel
  have hrepeated : versionHints.pipeline = .error (.duplicate "version") :=
    (herror _).2 ⟨hintKinds ++ ["version", "blueprint"], "version", [], by decide, by decide +kernel,
      by decide, .repeated (by decide) (by decide)⟩
  obtain ⟨p, hp⟩ := hpipeline.2 (by decide +kernel)
  exact ⟨⟨p, hp, (hregistry p hp).1⟩, hchecked, "version", hrepeated, by decide,
    (hvalid hchecked).2 _ hrepeated⟩

end Config

end WikiPage
