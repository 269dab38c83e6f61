import WikiPage.Config.Decode
import WikiPage.Config.Template
import WikiPage.Surroundings
/-!
# Loading configurations

A configuration comes from a file that is named, else from the file `wiki.toml` in the nearest folder around
the working folder, and else it is the usual one.  References to variables are replaced and the configuration
is checked before settings of a command line are put over it.  What is done with a text once it is read does
not depend on how it is read, so the reader is a parameter.

Main statement: `run_ofTextBy_eq_ok_iff`, that the configuration of a text is what the reader finds in it, with
the address filled in, and has no fault.
-/

namespace WikiPage.Config

variable {m : Type → Type} [Monad m]

/-- The name of configuration files. -/
def fileName : String := "wiki.toml"

/-- The configuration file in a folder or the nearest folder around it. -/
def discover (s : Surroundings m) (folder : String) : m (Option String) :=
  ((Path.ancestors folder).map (Path.entry · fileName)).findM? s.isFile

/-- The file to read: the one that is named, which has to exist, else one around the working folder. -/
def locate (s : Surroundings m) : Option String → ExceptT ConfigError m (Option String)
  | some path => do
    if ← s.exists? path then return some path else throw (.notFound path)
  | none => do
    match ← s.folder with
    | some folder => (discover s folder : m (Option String))
    | none => return none

/-- A configuration that has no fault. -/
def checked (c : Config) : Except ConfigError Config :=
  match c.fault? with
  | none => .ok c
  | some fault => .error (.invalid fault)

/-- The name of the setting that may refer to variables. -/
def addressField : String := "shortcodes.blueprint_base_url"

/-- A configuration with its address filled in, or the name of a variable that is not set. -/
def withAddress (c : Config) : Except String String → Except ConfigError Config
  | .error name => .error (.unsetVariable addressField name)
  | .ok address =>
    checked { c with shortcodes := { c.shortcodes with blueprintAddress := address } }

/-- The configuration that a text is written for, to a reader. -/
def ofTextBy (read? : String → Option Config) (s : Surroundings m) (text : String) :
    ExceptT ConfigError m Config :=
  ExceptT.mk <|
    match read? text with
    | none => return .error .malformed
    | some c => return c.withAddress (← (expand s.lookup c.shortcodes.blueprintAddress).run)

/-- The configuration of a file. -/
def ofFileBy (read? : String → Option Config) (s : Surroundings m) (path : String) :
    ExceptT ConfigError m Config := do
  match ← s.readText path with
  | none => throw .unreadable
  | some text => return { ← ofTextBy read? s text with path := some path }

/-- The configuration of the file to read, or the usual one without a file. -/
def ofLocatedBy (read? : String → Option Config) (s : Surroundings m) :
    Option String → ExceptT ConfigError m Config
  | some path => ofFileBy read? s path
  | none => return {}

/-- The configuration to use, with settings of a command line put over it if there are any. -/
def loadBy (read? : String → Option Config) (s : Surroundings m) (path : Option String)
    (settings : Option Overrides) : ExceptT ConfigError m Config := do
  let c ← ofLocatedBy read? s (← locate s path)
  return settings.elim c c.override

/-- The configuration that a text in the usual format is written for. -/
def ofText (s : Surroundings m) (text : String) : ExceptT ConfigError m Config := ofTextBy parse? s text

/-- The configuration to use, its file in the usual format. -/
def load (s : Surroundings m) (path : Option String) (settings : Overrides) :
    ExceptT ConfigError m Config :=
  loadBy parse? s path (some settings)

theorem checked_eq_ok_iff {c d : Config} : checked c = .ok d ↔ c.fault? = none ∧ d = c := by
  unfold checked
  cases hfault : c.fault? with
  | none => simp [eq_comm]
  | some fault => simp

/-- What a text gives: what the reader finds in it, with the address filled in and without a fault. -/
theorem run_ofTextBy_eq_ok_iff {read? : String → Option Config} {s : Surroundings Id} {text : String}
    {c : Config} : (ofTextBy read? s text).run = Except.ok c ↔
      ∃ parsed address, read? text = some parsed ∧
        (expand s.lookup parsed.shortcodes.blueprintAddress).run = Except.ok address ∧
        c = { parsed with shortcodes := { parsed.shortcodes with blueprintAddress := address } } ∧
        c.fault? = none := by
  unfold ofTextBy
  cases hread : read? text with
  | none =>
    constructor
    · intro h
      cases h
    · rintro ⟨_, _, h, -⟩
      cases h
  | some parsed =>
    show parsed.withAddress (expand s.lookup parsed.shortcodes.blueprintAddress).run = .ok c ↔ _
    cases hexpand : (expand s.lookup parsed.shortcodes.blueprintAddress).run with
    | error name =>
      constructor
      · intro h
        cases h
      · rintro ⟨_, _, h, haddress, -⟩
        cases h
        cases hexpand.symm.trans haddress
    | ok address =>
      rw [withAddress, checked_eq_ok_iff]
      constructor
      · rintro ⟨hfault, rfl⟩
        exact ⟨parsed, address, rfl, hexpand, rfl, hfault⟩
      · rintro ⟨_, _, h, haddress, rfl, hfault⟩
        cases h
        cases hexpand.symm.trans haddress
        exact ⟨hfault, rfl⟩

end WikiPage.Config
