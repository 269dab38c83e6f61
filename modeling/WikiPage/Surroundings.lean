/-!
# Surroundings

What a program asks of the machine that it runs on: files, variables, the working folder, and what is
given to it.  Programs are written against `Surroundings`, in any monad; a `Snapshot` holds a machine's
answers as data, so that what a program does there is a plain function.
-/

namespace WikiPage

/-- What a program can ask. -/
structure Surroundings (m : Type → Type) where
  /-- Whether there is anything at a path. -/
  exists? : String → m Bool
  /-- Whether there is a regular file at a path. -/
  isFile : String → m Bool
  /-- The text of the file at a path, if it can be read as text. -/
  readText : String → m (Option String)
  /-- The value of a variable. -/
  lookup : String → m (Option String)
  /-- The working folder. -/
  folder : m (Option String)
  /-- The text that is given to the program, if it can be read as text. -/
  input : m (Option String)

/-! ## 1. Paths -/

namespace Path

/-- The names in a path. -/
def names (path : String) : List String :=
  path.splitOn "/" |>.filter fun name => name != "" && name != "."

/-- Whether a path begins at the root. -/
def isAbsolute (path : String) : Bool := path.toList.head? == some '/'

/-- The path of an entry of a folder. -/
def entry (folder name : String) : String :=
  if folder.isEmpty || folder.toList.getLast? == some '/' then folder ++ name
  else folder ++ "/" ++ name

/-- The folders that the given number of names of a path lead to, and so on up to none. -/
def shortened (root : String) (names : List String) : Nat → List String
  | 0 => [root]
  | count + 1 => (root ++ String.intercalate "/" (names.take (count + 1))) :: shortened root names count

/-- A folder and the folders around it, as its path names them. -/
def ancestors (folder : String) : List String :=
  let names := names folder
  let root := if isAbsolute folder then "/" else ""
  match names.length with
  | 0 => [folder]
  | count + 1 => folder :: shortened root names count

end Path

/-! ## 2. Snapshots -/

/-- A machine's answers. -/
structure Snapshot where
  /-- Regular files with their texts; one that cannot be read as text has none. -/
  files : List (List String × Option String) := []
  folders : List (List String) := []
  environment : List (String × String) := []
  /-- The names of the path of the working folder. -/
  workingFolder : List String := []
  input : Option String := some ""
  deriving Repr, Inhabited

namespace Snapshot

/-- Whether names lead to a folder: one that is given, or one around something that is given. -/
def hasFolder (s : Snapshot) (names : List String) : Bool :=
  names.isEmpty || (s.folders ++ s.files.map Prod.fst).any fun place =>
    names.isPrefixOf place && (names.length < place.length || s.folders.contains place)

/-- Whether names lead to anything. -/
def has (s : Snapshot) (names : List String) : Bool :=
  s.hasFolder names || (s.files.lookup names).isSome

/-- Follows the names of a path, from where the first list leads. -/
def follow? (s : Snapshot) : List String → List String → Option (List String)
  | here, [] => if s.has here then some here else none
  | here, name :: rest =>
    if !s.hasFolder here then none
    else if name = "" ∨ name = "." then follow? s here rest
    else if name = ".." then follow? s here.dropLast rest
    else follow? s (here ++ [name]) rest

/-- Where a path leads, if there is anything. -/
def resolve? (s : Snapshot) (path : String) : Option (List String) :=
  if path.isEmpty then none
  else s.follow? (if Path.isAbsolute path then [] else s.workingFolder) (path.splitOn "/")

/-- What a program finds. -/
def surroundings (s : Snapshot) : Surroundings Id where
  exists? path := (s.resolve? path).isSome
  isFile path := (s.resolve? path).any fun names => (s.files.lookup names).isSome
  readText path := ((s.resolve? path).bind fun names => List.lookup names s.files).join
  lookup name := s.environment.lookup name
  folder := some ("/" ++ String.intercalate "/" s.workingFolder)
  input := s.input

end Snapshot

end WikiPage
