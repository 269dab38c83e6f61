/-!
# Tables

The values of a configuration file, and how its statements build up one table: a header opens a table,
and a key gives a value to an entry of the table that is open.  A table is opened once, and an entry is
given once; a table that was only passed on the way to another one may still be opened, and one that keys
with dots have made may only be added to by such keys.
-/

namespace WikiPage.Toml

/-- How a table came about. -/
inductive Origin where
  /-- It has a header, or is the whole file. -/
  | header
  /-- The header of a table inside it passes it. -/
  | passed
  /-- A key with dots passes it. -/
  | dotted
  /-- It is written between braces. -/
  | inline
  deriving DecidableEq, Repr, Inhabited

/-- A value.  Of fractions, dates and times nothing is kept, for no setting holds one. -/
inductive Value where
  | text (value : String)
  | integer (value : Int)
  | truth (value : Bool)
  | fraction
  | moment
  /-- A list, and whether headers have made it, one for each table in it. -/
  | list (ofTables : Bool) (items : List Value)
  | table (origin : Origin) (entries : List (String × Value))
  deriving Repr, Inhabited

/-! ## 1. Entries -/

/-- Gives an entry a value, in the stead of an earlier one. -/
def put (key : String) (value : Value) : List (String × Value) → List (String × Value)
  | [] => [(key, value)]
  | entry :: rest =>
    if entry.1 = key then (key, value) :: rest else entry :: put key value rest

/-- A table under construction. -/
structure Table where
  origin : Origin := .header
  entries : List (String × Value) := []
  deriving Repr, Inhabited

namespace Table

/-- A table as a value. -/
def toValue (t : Table) : Value := .table t.origin t.entries

/-- Gives an entry a value, in the stead of an earlier one. -/
def put (t : Table) (key : String) (value : Value) : Table :=
  { t with entries := Toml.put key value t.entries }

/-- Changes the last table of a list of tables. -/
def inLast (change : Table → Option Table) (items : List Value) : Option Value :=
  match items.getLast? with
  | some (.table origin entries) =>
    (change ⟨origin, entries⟩).map fun t => .list true (items.dropLast ++ [t.toValue])
  | _ => none

/-! ## 2. Following keys -/

/-- Changes the table that the keys of a header lead to; tables that are not there yet are made. -/
def underHeader (change : Table → Option Table) : List String → Table → Option Table
  | [], t => change t
  | key :: keys, t =>
    let value? := match t.entries.lookup key with
      | none => (underHeader change keys ⟨.passed, []⟩).map toValue
      | some (.table .inline _) => none
      | some (.table origin entries) => (underHeader change keys ⟨origin, entries⟩).map toValue
      | some (.list true items) => inLast (underHeader change keys) items
      | some _ => none
    value?.map (t.put key)

/-- Changes the table that the keys before the last dot lead to; tables that are not there yet are made,
and a table that has a header or stands between braces is not entered. -/
def underDots (change : Table → Option Table) : List String → Table → Option Table
  | [], t => change t
  | key :: keys, t =>
    let value? := match t.entries.lookup key with
      | none => (underDots change keys ⟨.dotted, []⟩).map toValue
      | some (.table origin entries) =>
        if origin = Origin.passed ∨ origin = Origin.dotted then
          (underDots change keys ⟨origin, entries⟩).map toValue
        else none
      | some (.list true items) => inLast (underDots change keys) items
      | some _ => none
    value?.map (t.put key)

/-! ## 3. Statements -/

/-- Opens a table of a name in a table. -/
def openTable (name : String) (t : Table) : Option Table :=
  match t.entries.lookup name with
  | none => some (t.put name (.table .header []))
  | some (.table .passed entries) => some (t.put name (.table .header entries))
  | some _ => none

/-- Adds a table to the list of tables of a name in a table. -/
def openListed (name : String) (t : Table) : Option Table :=
  match t.entries.lookup name with
  | none => some (t.put name (.list true [.table .header []]))
  | some (.list true items) => some (t.put name (.list true (items ++ [.table .header []])))
  | some _ => none

/-- Gives a new entry of a table its value. -/
def define (name : String) (value : Value) (t : Table) : Option Table :=
  match t.entries.lookup name with
  | none => some (t.put name value)
  | some _ => none

/-- Gives the entry with a dotted key, which ends in a name, its value. -/
def defineDotted (keys : List String) (name : String) (value : Value) (t : Table) : Option Table :=
  if keys.isEmpty then t.define name value
  else t.underDots (fun t => if t.origin = .dotted then t.define name value else none) keys

end Table

end WikiPage.Toml
