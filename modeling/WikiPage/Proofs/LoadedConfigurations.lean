import Mathlib
import WikiPage.Config.Load
/-!
# Loaded configurations

Four layers make a configuration: the usual settings, those of a file, the variables that its address refers
to, and the settings of a command line.  Only the second and the third are checked, and the last one is put on
after the check.  This file says what comes out for all machines and all readers of files.

* `find?_range_reverse_eq_some_iff`, `ancestors_eq`: the folders around a folder, and the nearest one of them
  with something in it.
* `IsSource`, `run_locate_eq_ok_iff`: the file that is read.
* `IsRead`, `run_ofFileBy_eq_ok_iff`: what stands in it.
* `loadBy_layers`: what loads is free of faults, and each layer is where it belongs.
-/

namespace WikiPage

/-! ## 1. Folders around a folder -/

section Nearest

variable {p : Nat → Bool} {n : Nat}

theorem reverse_range_succ (n : Nat) : (List.range (n + 1)).reverse = n :: (List.range n).reverse := by
  rw [List.range_succ, List.reverse_append, List.reverse_singleton, List.singleton_append]

/-- Going down from a number, what is found is the largest one that fits. -/
theorem find?_range_reverse_eq_some_iff {k : Nat} : (List.range n).reverse.find? p = some k ↔
    k < n ∧ p k = true ∧ ∀ more, k < more → more < n → p more = false := by
  induction n with
  | zero => simp
  | succ n ih =>
    rw [reverse_range_succ, List.find?_cons]
    cases hn : p n with
    | true =>
      constructor
      · rintro h
        cases h
        exact ⟨Nat.lt_succ_self _, hn, fun more h h' => by omega⟩
      · rintro ⟨hk, -, hmore⟩
        by_contra hne
        have hlt : k < n := by
          rcases Nat.lt_succ_iff_lt_or_eq.1 hk with h | h
          · exact h
          · exact absurd (congrArg some h.symm) hne
        rw [hmore n hlt (Nat.lt_succ_self n)] at hn
        cases hn
    | false =>
      simp only [ih]
      constructor
      · rintro ⟨hk, hp, hmore⟩
        refine ⟨by omega, hp, fun more h h' => ?_⟩
        rcases Nat.lt_succ_iff_lt_or_eq.1 h' with h' | rfl
        · exact hmore more h h'
        · exact hn
      · rintro ⟨hk, hp, hmore⟩
        have hne : k ≠ n := by
          rintro rfl
          rw [hn] at hp
          cases hp
        exact ⟨by omega, hp, fun more h h' => hmore more h (by omega)⟩

theorem find?_range_reverse_eq_none_iff :
    (List.range n).reverse.find? p = none ↔ ∀ k < n, p k = false := by
  simp

end Nearest

namespace Path

/-- The folder that the first names of a folder's path lead to. -/
def around (folder : String) (count : Nat) : String :=
  if count = (names folder).length then folder
  else (if isAbsolute folder then "/" else "") ++ String.intercalate "/" ((names folder).take count)

theorem shortened_eq (root : String) (names : List String) (count : Nat) :
    shortened root names count =
      (List.range (count + 1)).reverse.map fun k => root ++ String.intercalate "/" (names.take k) := by
  induction count with
  | zero => simp [shortened, String.intercalate]
  | succ count ih =>
    rw [reverse_range_succ, List.map_cons, shortened, ih]

/-- The folders around a folder leave out one more name each. -/
theorem ancestors_eq (folder : String) :
    ancestors folder = (List.range ((names folder).length + 1)).reverse.map (around folder) := by
  have hself : around folder (names folder).length = folder := if_pos rfl
  rw [reverse_range_succ, List.map_cons, hself, ancestors]
  cases hcount : (names folder).length with
  | zero => rfl
  | succ count =>
    simp only [shortened_eq]
    congr 1
    refine List.map_congr_left fun k hk => ?_
    have hne : k ≠ (names folder).length := by
      simp only [List.mem_reverse, List.mem_range] at hk
      omega
    rw [around, if_neg hne]

end Path

namespace Config

variable {s : Surroundings Id} {read? : String → Option Config}

/-! ## 2. The file that is read -/

/-- The path of the configuration file in the folder that the first names of a folder's path lead to. -/
def fileAround (folder : String) (count : Nat) : String := Path.entry (Path.around folder count) fileName

/-- The file that a configuration comes from, if any, for the path that is given, if any. -/
inductive IsSource (s : Surroundings Id) : Option String → Option String → Prop
  /-- The path that is given. -/
  | given {path : String} (hexists : s.exists? path = true) : IsSource s (some path) (some path)
  /-- The file in the nearest folder that has one, among the working folder and those around it. -/
  | nearest {folder : String} {count : Nat} (hfolder : s.folder = some folder)
      (hcount : count ≤ (Path.names folder).length)
      (hfile : s.isFile (fileAround folder count) = true)
      (hnearer : ∀ more, count < more → more ≤ (Path.names folder).length →
        s.isFile (fileAround folder more) = false) :
      IsSource s none (some (fileAround folder count))
  /-- No folder has one, or there is no working folder. -/
  | missing (hnone : ∀ folder, s.folder = some folder → ∀ count ≤ (Path.names folder).length,
      s.isFile (fileAround folder count) = false) : IsSource s none none

theorem run_discover_eq (s : Surroundings Id) (folder : String) :
    (discover s folder).run = ((List.range ((Path.names folder).length + 1)).reverse.find? fun k =>
      s.isFile (fileAround folder k)).map (fileAround folder) := by
  rw [discover, List.idRun_findM?, Path.ancestors_eq, List.map_map, List.find?_map]
  rfl

/-- The search ends at the nearest file. -/
theorem run_discover_eq_some_iff {folder file : String} :
    (discover s folder).run = some file ↔ ∃ count ≤ (Path.names folder).length,
      fileAround folder count = file ∧ s.isFile (fileAround folder count) = true ∧
        ∀ more, count < more → more ≤ (Path.names folder).length →
          s.isFile (fileAround folder more) = false := by
  rw [run_discover_eq, Option.map_eq_some_iff]
  refine exists_congr fun count => ?_
  rw [find?_range_reverse_eq_some_iff]
  simp only [Nat.lt_succ_iff]
  tauto

theorem run_discover_eq_none_iff {folder : String} :
    (discover s folder).run = none ↔ ∀ count ≤ (Path.names folder).length,
      s.isFile (fileAround folder count) = false := by
  rw [run_discover_eq, Option.map_eq_none_iff, find?_range_reverse_eq_none_iff]
  simp only [Nat.lt_succ_iff]

theorem run_locate_some_of_exists {path : String} (h : s.exists? path = true) :
    (locate s (some path)).run = Except.ok (some path) := by
  unfold locate
  simp only [ExceptT.run_bind]
  rw [h]
  rfl

/-- A path that leads to nothing is an error. -/
theorem run_locate_some_of_not_exists {path : String} (h : s.exists? path = false) :
    (locate s (some path)).run = Except.error (.notFound path) := by
  unfold locate
  simp only [ExceptT.run_bind]
  rw [h]
  rfl

theorem run_locate_none (s : Surroundings Id) :
    (locate s none).run = Except.ok (Option.bind s.folder fun folder => (discover s folder).run) := by
  unfold locate
  cases h : s.folder with
  | none => rfl
  | some folder => rfl

theorem run_locate_eq_ok_iff {path file : Option String} :
    (locate s path).run = Except.ok file ↔ IsSource s path file := by
  cases path with
  | some path =>
    cases hexists : s.exists? path with
    | true =>
      rw [run_locate_some_of_exists hexists]
      constructor
      · intro h
        cases h
        exact .given hexists
      · rintro ⟨-⟩
        rfl
    | false =>
      rw [run_locate_some_of_not_exists hexists]
      constructor
      · intro h
        cases h
      · rintro ⟨h⟩
        cases hexists.symm.trans h
  | none =>
    rw [run_locate_none, Except.ok.injEq]
    cases file with
    | some file =>
      rw [Option.bind_eq_some_iff]
      constructor
      · rintro ⟨folder, hfolder, hfile⟩
        obtain ⟨count, hcount, rfl, hfile, hnearer⟩ := run_discover_eq_some_iff.1 hfile
        exact .nearest hfolder hcount hfile hnearer
      · intro h
        cases h with
        | nearest hfolder hcount hfile hnearer =>
          exact ⟨_, hfolder, run_discover_eq_some_iff.2 ⟨_, hcount, rfl, hfile, hnearer⟩⟩
    | none =>
      rw [Option.bind_eq_none_iff]
      constructor
      · exact fun h => .missing fun folder hfolder => run_discover_eq_none_iff.1 (h folder hfolder)
      · intro h folder hfolder
        cases h with
        | missing hnone => exact run_discover_eq_none_iff.2 (hnone folder hfolder)

/-! ## 3. What stands in a file -/

/-- What a file holds for a reader: what its text says, with the variables in the address replaced and the
file noted.  Without a file it is the usual configuration. -/
inductive IsRead (read? : String → Option Config) (s : Surroundings Id) : Option String → Config → Prop
  | usual : IsRead read? s none {}
  | file {file text address : String} {parsed : Config} (htext : s.readText file = some text)
      (hparsed : read? text = some parsed)
      (haddress : (expand s.lookup parsed.shortcodes.blueprintAddress).run = Except.ok address) :
      IsRead read? s (some file)
        { parsed with
          shortcodes := { parsed.shortcodes with blueprintAddress := address }
          path := some file }

theorem run_bind_eq_ok_iff {ε α β : Type} {x : ExceptT ε Id α} {f : α → ExceptT ε Id β} {b : β} :
    (x >>= f).run = Except.ok b ↔ ∃ a, x.run = Except.ok a ∧ (f a).run = Except.ok b := by
  rw [ExceptT.run_bind]
  cases x.run with
  | ok a =>
    constructor
    · exact fun h => ⟨a, rfl, h⟩
    · rintro ⟨_, ⟨⟩, h⟩
      exact h
  | error e =>
    constructor
    · intro h
      cases h
    · rintro ⟨_, ⟨⟩, -⟩

/-- Reading a file succeeds with what stands in it, if that has no fault. -/
theorem run_ofFileBy_eq_ok_iff {file : String} {base : Config} :
    (ofFileBy read? s file).run = Except.ok base ↔
      IsRead read? s (some file) base ∧ base.fault? = none := by
  show (match s.readText file with
    | none => throw .unreadable
    | some text => ofTextBy read? s text >>= fun c => pure { c with path := some file } :
      ExceptT ConfigError Id Config).run = _ ↔ _
  cases htext : s.readText file with
  | none =>
    constructor
    · intro h
      cases h
    · rintro ⟨h, -⟩
      cases h with
      | file h => cases htext.symm.trans h
  | some text =>
    simp only [run_bind_eq_ok_iff, run_ofTextBy_eq_ok_iff]
    constructor
    · rintro ⟨_, ⟨parsed, address, hparsed, haddress, rfl, hfault⟩, h⟩
      cases h
      have hread := IsRead.file htext hparsed haddress
      exact ⟨hread, hfault⟩
    · rintro ⟨h, hfault⟩
      cases h with
      | file h hparsed haddress =>
        cases htext.symm.trans h
        exact ⟨_, ⟨_, _, hparsed, haddress, rfl, hfault⟩, rfl⟩

/-- The usual configuration has no fault. -/
theorem fault?_usual : fault? {} = none := by decide +kernel

theorem run_ofLocatedBy_eq_ok_iff {file : Option String} {base : Config} :
    (ofLocatedBy read? s file).run = Except.ok base ↔ IsRead read? s file base ∧ base.fault? = none := by
  cases file with
  | some file => exact run_ofFileBy_eq_ok_iff
  | none =>
    constructor
    · intro h
      cases h
      exact ⟨.usual, fault?_usual⟩
    · rintro ⟨⟨⟩, -⟩
      rfl

/-! ## 4. All layers -/

/-- Settings of a command line cannot put a fault into a configuration. -/
theorem fault?_override (c : Config) (o : Overrides) : (c.override o).fault? = c.fault? := rfl

theorem run_loadBy_eq_ok_iff {path : Option String} {settings : Option Overrides} {c : Config} :
    (loadBy read? s path settings).run = Except.ok c ↔ ∃ file base, IsSource s path file ∧
      IsRead read? s file base ∧ base.fault? = none ∧ c = settings.elim base base.override := by
  unfold loadBy
  simp only [run_bind_eq_ok_iff, run_locate_eq_ok_iff, run_ofLocatedBy_eq_ok_iff]
  constructor
  · rintro ⟨file, hsource, base, ⟨hread, hfault⟩, hc⟩
    cases hc
    exact ⟨file, base, hsource, hread, hfault, rfl⟩
  · rintro ⟨file, base, hsource, hread, hfault, rfl⟩
    exact ⟨file, hsource, base, ⟨hread, hfault⟩, rfl⟩

theorem fault?_of_run_loadBy {path : Option String} {settings : Option Overrides} {c : Config}
    (h : (loadBy read? s path settings).run = Except.ok c) : c.fault? = none := by
  obtain ⟨file, base, -, -, hfault, rfl⟩ := run_loadBy_eq_ok_iff.1 h
  cases settings with
  | none => exact hfault
  | some settings => exact (fault?_override base settings).trans hfault

/-- **What loads is valid, and its layers are in order**, for all machines, readers of files, paths and
settings: it has no fault, and it is what stands in the file that is given, else in the nearest one around the
working folder, else the usual configuration, with just those settings changed that the command line has.  A
path that is given has to lead somewhere, and with one the search for a file plays no part. -/
theorem loadBy_layers (read? : String → Option Config) (s : Surroundings Id) (path : Option String)
    (settings : Option Overrides) :
    (∀ c, (loadBy read? s path settings).run = Except.ok c → c.fault? = none) ∧
      (∀ c, (loadBy read? s path settings).run = Except.ok c ↔
        ∃ file base, IsSource s path file ∧ IsRead read? s file base ∧ base.fault? = none ∧
          c = { base with
            render := { base.render with
              gfm := (settings.bind Overrides.gfm).getD base.render.gfm
              math := (settings.bind Overrides.math).getD base.render.math
              extractTitle := (settings.bind Overrides.extractTitle).getD base.render.extractTitle }
            video := (settings.bind Overrides.video).getD base.video }) ∧
      (∀ given, path = some given → s.exists? given = false →
        (loadBy read? s path settings).run = Except.error (.notFound given)) ∧
      ∀ (m : Type → Type) [Monad m] (t : Surroundings m) (given : String) (isFile : String → m Bool)
        (folder : m (Option String)), loadBy read? { t with isFile, folder } (some given) settings =
          loadBy read? t (some given) settings := by
  refine ⟨fun c h => fault?_of_run_loadBy h, fun c => ?_, ?_, fun m _ t given isFile folder => rfl⟩
  · rw [run_loadBy_eq_ok_iff]
    cases settings <;> rfl
  · rintro given rfl hexists
    rw [loadBy, ExceptT.run_bind, run_locate_some_of_not_exists hexists]
    rfl

/-- A configuration file that refers to a variable. -/
def docsText : String :=
  "[render]\nmath = false\n[shortcodes]\nblueprint_base_url = \"https://$\x7bBP_HOST:-bp.example\x7d\"\n"

/-- A machine with this file, in the folder around the working folder, and with no variables. -/
def docsMachine : Surroundings Id where
  exists? path := path == "/wiki.toml"
  isFile path := path == "/wiki.toml"
  readText path := if path == "/wiki.toml" then some docsText else none
  lookup _ := none
  folder := some "/w"
  input := some ""

/-- What stands in the file. -/
def docsConfig : Config where
  render := { math := false }
  shortcodes := { blueprintAddress := "https://bp.example" }
  path := some "/wiki.toml"

theorem docsMachine_isSource : IsSource docsMachine none (some "/wiki.toml") := by
  have hnames : (Path.names "/w").length = 1 := by cbv
  have hroot : fileAround "/w" 0 = "/wiki.toml" := by cbv
  have hinner : fileAround "/w" 1 = "/w/wiki.toml" := by cbv
  rw [← hroot]
  refine .nearest rfl (Nat.zero_le _) (by rw [hroot]; rfl) fun more hmore hle => ?_
  obtain rfl : more = 1 := by omega
  rw [hinner]
  rfl

theorem docsMachine_isRead : IsRead parse? docsMachine (some "/wiki.toml") docsConfig := by
  have hparsed : parse? docsText = some { docsConfig with
      shortcodes := { blueprintAddress := "https://$\x7bBP_HOST:-bp.example\x7d" }
      path := none } := by cbv
  exact .file rfl hparsed (by cbv)

/-- On that machine the file in the outer folder is used, its variable is replaced, and a path to nothing
is refused. -/
theorem loadBy_layers_docsMachine :
    (loadBy parse? docsMachine none (some { gfm := some false })).run =
        Except.ok (docsConfig.override { gfm := some false }) ∧
      (docsConfig.override { gfm := some false }).fault? = none ∧
      docsMachine.exists? "site.toml" = false ∧
      (loadBy parse? docsMachine (some "site.toml") none).run = Except.error (.notFound "site.toml") := by
  obtain ⟨hvalid, hlayers, -⟩ := loadBy_layers parse? docsMachine none (some { gfm := some false })
  have hload := (hlayers (docsConfig.override { gfm := some false })).2
    ⟨_, docsConfig, docsMachine_isSource, docsMachine_isRead, by decide +kernel, rfl⟩
  obtain ⟨-, -, hmissing, -⟩ := loadBy_layers parse? docsMachine (some "site.toml") none
  exact ⟨hload, hvalid _ hload, rfl, hmissing _ rfl rfl⟩

end Config

end WikiPage
