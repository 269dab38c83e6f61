/-!
# Commands

What may be asked for on the command line: to render a page, to print its tree, or to say the version or how
the program is used.  Options may stand before and after the file; each may be given once.
-/

namespace WikiPage

/-- Options that are given or not. -/
inductive Switch where
  | verbose
  /-- The first heading is the title. -/
  | title
  /-- Links to videos stay links. -/
  | noEmbeds
  /-- Only the common constructs of pages. -/
  | noGfm
  deriving DecidableEq, Repr, Inhabited

/-- The arguments of a command. -/
structure Arguments where
  switches : List Switch := []
  config : Option String := none
  file : Option String := none
  deriving DecidableEq, Repr, Inhabited

/-- What is asked for. -/
inductive Command where
  | render (arguments : Arguments)
  | tree (arguments : Arguments)
  | version
  | help
  deriving DecidableEq, Repr, Inhabited

namespace Arguments

/-- Adds a switch. -/
def addSwitch? (a : Arguments) (s : Switch) : Option Arguments :=
  if a.switches.contains s then none else some { a with switches := a.switches ++ [s] }

/-- Sets the configuration file. -/
def setConfig? (a : Arguments) (path : String) : Option Arguments :=
  if path.isEmpty || a.config.isSome then none else some { a with config := some path }

/-- Sets the file of the page. -/
def setFile? (a : Arguments) (path : String) : Option Arguments :=
  if path.isEmpty || a.file.isSome then none else some { a with file := some path }

end Arguments

namespace Command

/-! ## 1. Options -/

/-- What an option stands for. -/
inductive Meaning where
  | switch (s : Switch)
  | config
  | help
  deriving DecidableEq, Repr, Inhabited

/-- The option of a name; some are for rendering alone. -/
def meaning? (rendering : Bool) : String → Option Meaning
  | "verbose" => some (.switch .verbose)
  | "config" => some .config
  | "help" => some .help
  | "title" => if rendering then some (.switch .title) else none
  | "no-embeds" => if rendering then some (.switch .noEmbeds) else none
  | "no-gfm" => if rendering then some (.switch .noGfm) else none
  | _ => none

/-- Whether an argument is an option: it begins with a dash, but is not a dash alone. -/
def isOption (argument : String) : Bool :=
  match argument.toList with
  | '-' :: _ :: _ => true
  | _ => false

/-- What an argument does to those before it. -/
inductive Step where
  | next (a : Arguments)
  /-- The configuration file is the next argument. -/
  | needsConfig (a : Arguments)
  /-- There are no options any more. -/
  | filesOnly
  | help
  deriving DecidableEq, Repr, Inhabited

/-- Reads the letters of a short option. -/
def readLetters : Arguments → List Char → Option Step
  | a, [] => some (.next a)
  | a, 'v' :: rest =>
    match a.addSwitch? .verbose with
    | some a => readLetters a rest
    | none => none
  | _, 'h' :: _ => some .help
  | a, ['c'] => some (.needsConfig a)
  | a, 'c' :: '=' :: path => (a.setConfig? (String.ofList path)).map .next
  | a, 'c' :: path => (a.setConfig? (String.ofList path)).map .next
  | _, _ => none

/-- The name of a long option, without its dashes, and the value after an equals sign. -/
def splitLong (option : List Char) : String × Option String :=
  let name := String.ofList (option.takeWhile (· != '='))
  match option.dropWhile (· != '=') with
  | _ :: value => (name, some (String.ofList value))
  | [] => (name, none)

/-! ## 2. Arguments of a command -/

/-- Reads an argument. -/
def step? (rendering : Bool) (a : Arguments) (argument : String) : Option Step :=
  match argument.toList with
  | ['-', '-'] => some .filesOnly
  | '-' :: '-' :: option =>
    let (name, value) := splitLong option
    match meaning? rendering name, value with
    | some (.switch s), none => (a.addSwitch? s).map .next
    | some .config, some path => (a.setConfig? path).map .next
    | some .config, none => some (.needsConfig a)
    | some .help, none => some .help
    | _, _ => none
  | '-' :: c :: letters => readLetters a (c :: letters)
  | _ => (a.setFile? argument).map .next

/-- Reads the arguments of a command; they come to nothing where they ask for help. -/
def readArguments (rendering : Bool) : Arguments → List String → Option (Option Arguments)
  | a, [] => some (some a)
  | a, argument :: rest =>
    match step? rendering a argument with
    | none => none
    | some .help => some none
    | some .filesOnly => (rest.foldlM Arguments.setFile? a).map some
    | some (.next a) => readArguments rendering a rest
    | some (.needsConfig a) =>
      match rest with
      | [] => none
      | path :: rest =>
        if isOption path then none
        else match a.setConfig? path with
          | some a => readArguments rendering a rest
          | none => none

/-! ## 3. Commands -/

/-- What the letters of a short option before a command ask for; they come to nothing where they only ask
to be verbose. -/
def readFirstLetters : Bool → List Char → Option (Option Command)
  | _, [] => some none
  | false, 'v' :: rest => readFirstLetters true rest
  | _, 'h' :: _ => some (some .help)
  | _, 'V' :: _ => some (some .version)
  | _, _ => none

/-- The names of commands. -/
def names : List String := ["render", "tree", "help"]

/-- Reads a command line, given whether it has asked to be verbose. -/
def readFrom : Bool → List String → Option Command
  | _, [] => none
  | verbose, argument :: rest =>
    let or (make : Arguments → Command) : Option Arguments → Command
      | some a => make a
      | none => .help
    match argument with
    | "render" => (readArguments true {} rest).map (or .render)
    | "tree" => (readArguments false {} rest).map (or .tree)
    | "help" =>
      match rest with
      | [] => some .help
      | [name] => if names.contains name then some .help else none
      | _ => none
    | "--help" => some .help
    | "--version" => some .version
    | "--verbose" => if verbose then none else readFrom true rest
    | _ =>
      match argument.toList with
      | '-' :: c :: letters =>
        match readFirstLetters verbose (c :: letters) with
        | some (some command) => some command
        | some none => readFrom true rest
        | none => none
      | _ => none

/-- What a command line asks for, if it can be understood. -/
def read? (arguments : List String) : Option Command := readFrom false arguments

end Command

end WikiPage
