import WikiPage.Pipeline
/-!
# Configurations

What a site may set: how pages are read and rendered, which shortcodes there are, and whether links to
videos become frames.  A configuration is checked before it is used, and gives a pipeline when its shortcodes
make a registry.
-/

namespace WikiPage

/-- The shortcodes of a site. -/
structure ShortcodeSettings where
  /-- The kinds of hint. -/
  hints : List String := Shortcode.hintKinds
  /-- Where blueprints are shown. -/
  blueprintAddress : String := "https://blueprintue.com/render"
  /-- Whether parts of a page may apply to some versions only. -/
  versionGate : Bool := true
  deriving DecidableEq, Repr, Inhabited

/-- A configuration. -/
structure Config where
  render : PipelineOptions := {}
  shortcodes : ShortcodeSettings := {}
  /-- Whether links to videos become frames. -/
  video : Bool := true
  /-- The file that it was read from. -/
  path : Option String := none
  deriving DecidableEq, Repr, Inhabited

/-- What is wrong with a configuration. -/
inductive ConfigFault where
  | noNesting
  | emptyHint
  | repeatedHint (name : String)
  | emptyAddress
  | foreignAddress
  deriving DecidableEq, Repr, Inhabited

/-- The wording of a fault. -/
def ConfigFault.message : ConfigFault → String
  | noNesting => "render.max_nesting must be greater than 0"
  | emptyHint => "shortcodes.hints cannot be empty"
  | repeatedHint name => "shortcodes.hints lists " ++ Text.quote name ++ " more than once"
  | emptyAddress => "shortcodes.blueprint_base_url cannot be empty"
  | foreignAddress => "shortcodes.blueprint_base_url must start with http:// or https://"

/-- Why a configuration could not be had. -/
inductive ConfigError where
  | notFound (path : String)
  /-- A file could not be read. -/
  | unreadable
  /-- A file is not written as configurations are. -/
  | malformed
  | invalid (fault : ConfigFault)
  /-- A setting refers to a variable that is not set. -/
  | unsetVariable (field name : String)
  deriving DecidableEq, Repr, Inhabited

/-- The wording of an error; nothing where the wording is that of the system or of the file's format. -/
def ConfigError.message? : ConfigError → Option String
  | notFound path => some ("Configuration file not found: " ++ path)
  | unreadable | malformed => none
  | invalid fault => some ("Configuration error: " ++ fault.message)
  | unsetVariable field name =>
    some ("Environment variable error in " ++ field ++ ": $\x7b" ++ name ++ "\x7d not set")

namespace Config

/-! ## 1. Checking -/

/-- What is wrong with the kinds of hint, those of `seen` being given already. -/
def hintsFault? (seen : List String) : List String → Option ConfigFault
  | [] => none
  | hint :: rest =>
    if hint.isEmpty then some .emptyHint
    else if seen.contains hint then some (.repeatedHint hint)
    else hintsFault? (hint :: seen) rest

/-- What is wrong with the address of blueprints. -/
def addressFault? (address : String) : Option ConfigFault :=
  if address.isEmpty then some .emptyAddress
  else if "http://".toList.isPrefixOf address.toList || "https://".toList.isPrefixOf address.toList then
    none
  else some .foreignAddress

/-- The first thing that is wrong with a configuration. -/
def fault? (c : Config) : Option ConfigFault :=
  if c.render.maxNesting = 0 then some .noNesting
  else (hintsFault? [] c.shortcodes.hints).or (addressFault? c.shortcodes.blueprintAddress)

/-! ## 2. Settings that are put over those of a file -/

/-- Settings given on a command line; what is not given stays as it is. -/
structure Overrides where
  gfm : Option Bool := none
  math : Option Bool := none
  extractTitle : Option Bool := none
  video : Option Bool := none
  deriving DecidableEq, Repr, Inhabited

/-- A configuration with settings put over it. -/
def override (c : Config) (o : Overrides) : Config :=
  { c with
    render := { c.render with
      gfm := o.gfm.getD c.render.gfm
      math := o.math.getD c.render.math
      extractTitle := o.extractTitle.getD c.render.extractTitle }
    video := o.video.getD c.video }

/-! ## 3. The pipeline of a configuration -/

/-- The shortcodes of a site, in order. -/
def shortcodeList (c : Config) : List Shortcode :=
  c.shortcodes.hints.map Shortcode.hint ++ [Shortcode.blueprint c.shortcodes.blueprintAddress] ++
    if c.shortcodes.versionGate then [Shortcode.versionGate] else []

/-- The pipeline of a configuration, when its shortcodes make a registry. -/
def pipeline (c : Config) : Except Shortcode.RegistryError Pipeline :=
  (Shortcode.Registry.ofList c.shortcodeList).map fun registry =>
    { options := c.render, registry, embeds := if c.video then .standard else ⟨[]⟩ }

end Config

end WikiPage
