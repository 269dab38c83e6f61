import WikiPage.Config.Load
import WikiPage.Program.Command
import WikiPage.Tree.Datum
/-!
# Sessions

What the program does with a command line: it loads the configuration, reads a page, and gives its markup
or its tree, with the warnings beside it.  `run` says what a command line comes to, and `Outcome` what is then
printed and with which code the program ends.
-/

namespace WikiPage

/-- Why a command failed. -/
inductive SessionError where
  | config (e : ConfigError)
  /-- The page could not be read. -/
  | unreadable
  | shortcodes (e : Shortcode.RegistryError)
  | render (e : RenderError)
  deriving DecidableEq, Repr, Inhabited

/-- The wording of an error; nothing where the wording is that of the system or of the file's format. -/
def SessionError.message? : SessionError → Option String
  | config e => e.message?
  | unreadable => none
  | shortcodes e => some ("invalid shortcode configuration: " ++ e.message)
  | render e => some e.message

/-- What a command line comes to. -/
inductive Outcome where
  | rendered (page : RenderedPage)
  | tree (page : TransformedPage)
  | version
  | help
  /-- The command line cannot be understood. -/
  | misuse
  | failed (e : SessionError)
  deriving Repr, Inhabited

namespace Outcome

/-- The name and version of the program. -/
def versionLine : String := "wiki 0.1.0"

/-- How the program is used. -/
def usage : List String :=
  ["Usage: wiki [-v] render [FILE] [-c CONFIG] [--title] [--no-embeds] [--no-gfm]",
   "       wiki [-v] tree [FILE] [-c CONFIG]",
   "       wiki --version"]

/-- The code that the program ends with. -/
def exitCode : Outcome → Nat
  | rendered _ | tree _ | version | help => 0
  | failed _ => 1
  | misuse => 2

/-- Lines as a text. -/
def lines (texts : List String) : String := String.join (texts.map (· ++ "\n"))

/-- What is printed. -/
def output : Outcome → String
  | rendered page => lines [page.html]
  | tree page => lines [page.tree.datum.pretty]
  | version => lines [versionLine]
  | help => lines usage
  | misuse | failed _ => ""

/-- A line for each warning. -/
def warningLines (warnings : List String) : List String := warnings.map ("Warning: " ++ ·)

/-- What is said beside what is printed. -/
def remarks : Outcome → String
  | rendered page =>
    lines (warningLines page.warnings ++ (page.title.map ("Title: " ++ ·)).toList)
  | tree page => lines (warningLines page.warnings)
  | version | help => ""
  | misuse => lines usage
  | failed e => lines ["Error: " ++ e.message?.getD "a file could not be read"]

end Outcome

namespace Session

variable {m : Type → Type} [Monad m]

/-- The variable that names a configuration file. -/
def configVariable : String := "WIKI_CONFIG"

/-- Settings that the switches of a command line put over a configuration. -/
def overrides (switches : List Switch) : Config.Overrides where
  gfm := if switches.contains .noGfm then some false else none
  extractTitle := if switches.contains .title then some true else none
  video := if switches.contains .noEmbeds then some false else none

/-- The pipeline for a command line. -/
def pipeline (s : Surroundings m) (a : Arguments) : ExceptT SessionError m Pipeline :=
  ExceptT.mk do
    match ← (Config.load s a.config (overrides a.switches)).run with
    | .error e => return .error (.config e)
    | .ok config => return config.pipeline.mapError .shortcodes

/-- The text of the page: that of the file, or what is given to the program. -/
def source (s : Surroundings m) (file : Option String) : ExceptT SessionError m String :=
  ExceptT.mk do
    let text ← match file with
      | some path => if path = "-" then s.input else s.readText path
      | none => s.input
    return match text with
      | some text => .ok text
      | none => .error .unreadable

/-- What a command gives for a page. -/
def perform (s : Surroundings m) (a : Arguments)
    (give : Pipeline → String → Except RenderError Outcome) : m Outcome := do
  let result ← (do
    let p ← pipeline s a
    let text ← source s a.file
    ExceptT.mk (pure ((give p text).mapError SessionError.render)) :
      ExceptT SessionError m Outcome).run
  match result with
  | .ok o => return o
  | .error e => return .failed e

/-- A command with the configuration file that a variable names, unless it names one itself; that name
may not be empty. -/
def withVariable (a : Arguments) : Option String → Option Arguments
  | some path => if a.config.isSome then some a else a.setConfig? path
  | none => some a

/-- What a command line comes to. -/
def run (s : Surroundings m) (arguments : List String) : m Outcome := do
  let named ← s.lookup configVariable
  match Command.read? arguments with
  | none => return .misuse
  | some .version => return .version
  | some .help => return .help
  | some (.render a) =>
    match withVariable a named with
    | none => return .misuse
    | some a => perform s a fun p text => (p.render text).map .rendered
  | some (.tree a) =>
    match withVariable a named with
    | none => return .misuse
    | some a => perform s a fun p text => (p.transform text).map .tree

end Session

end WikiPage
