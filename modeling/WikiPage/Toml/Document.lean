import WikiPage.Toml.Quotation
/-!
# Configuration files

A file is a sequence of statements, one a line: headers, and keys with their values.  A value may run over
lines between brackets or braces.  `read?` gives the table that the statements build up, or nothing when the
file is not well formed.
-/

namespace WikiPage.Toml

/-! ## 1. Blanks and comments -/

/-- The text after the blanks of a line. -/
def skipBlanks (text : List Char) : List Char := text.dropWhile fun c => c == ' ' || c == '\t'

/-- The text after blanks, line ends and comments; the flag tells that a comment has begun. -/
def skipGap? : Bool → List Char → Option (List Char)
  | _, [] => some []
  | _, '\r' :: '\n' :: rest => skipGap? false rest
  | true, c :: rest =>
    if c = '\n' then skipGap? false rest else if isLineChar c then skipGap? true rest else none
  | false, c :: rest =>
    if c = '#' then skipGap? true rest
    else if c = ' ' ∨ c = '\t' ∨ c = '\n' then skipGap? false rest
    else some (c :: rest)

/-- The text after the end of a line, before which only blanks and a comment may stand. -/
def endLine? : Bool → List Char → Option (List Char)
  | _, [] => some []
  | _, '\r' :: '\n' :: rest => some rest
  | true, c :: rest =>
    if c = '\n' then some rest else if isLineChar c then endLine? true rest else none
  | false, c :: rest =>
    if c = '\n' then some rest
    else if c = '#' then endLine? true rest
    else if c = ' ' ∨ c = '\t' then endLine? false rest
    else none

/-! ## 2. Keys -/

/-- A character of a key without quotation marks. -/
def isKeyChar (c : Char) : Bool := c.isAlphanum || c == '_' || c == '-'

/-- A key without dots, and the rest. -/
def simpleKey? (text : List Char) : Option (String × List Char) :=
  let name := text.takeWhile isKeyChar
  if name.isEmpty then lineQuotation? text
  else some (String.ofList name, text.dropWhile isKeyChar)

/-- A key, as what stands before its last dot and the name after it, and the rest after blanks. -/
def key? : Nat → List Char → Option (List String × String × List Char)
  | 0, _ => none
  | fuel + 1, text => do
    let (name, rest) ← simpleKey? (skipBlanks text)
    match skipBlanks rest with
    | '.' :: rest =>
      let (keys, last, rest) ← key? fuel rest
      some (name :: keys, last, rest)
    | rest => some ([], name, rest)

/-- A key and the equals sign after it, and the rest after blanks. -/
def keyEquals? (text : List Char) : Option (List String × String × List Char) := do
  let (keys, name, rest) ← key? (text.length + 1) text
  match rest with
  | '=' :: rest => some (keys, name, skipBlanks rest)
  | _ => none

/-! ## 3. Values -/

/-- How deep brackets and braces may be nested. -/
def maxDepth : Nat := 80

mutual
/-- A value inside of `depth` brackets and braces, and the rest. -/
def value? : Nat → Nat → List Char → Option (Value × List Char)
  | 0, _, _ => none
  | fuel + 1, depth, text =>
    match text with
    | '"' :: _ | '\'' :: _ => (quotation? text).map fun (value, rest) => (.text value, rest)
    | '[' :: rest =>
      if depth < maxDepth then
        (items? fuel (depth + 1) rest).map fun (items, rest) => (.list false items, rest)
      else none
    | '{' :: rest =>
      if depth < maxDepth then
        (members? fuel (depth + 1) ⟨.inline, []⟩ rest).map fun (t, rest) => (t.toValue, rest)
      else none
    | _ =>
      let (word, rest) := word text
      (scalar? word).map fun value => (value, rest)
/-- The values up to a closing bracket, each with a comma after it but perhaps the last one. -/
def items? : Nat → Nat → List Char → Option (List Value × List Char)
  | 0, _, _ => none
  | fuel + 1, depth, text =>
    match skipGap? false text with
    | none => none
    | some (']' :: rest) => some ([], rest)
    | some text =>
      match value? fuel depth text with
      | none => none
      | some (value, rest) =>
        match skipGap? false rest with
        | some (',' :: rest) =>
          (items? fuel depth rest).map fun (values, rest) => (value :: values, rest)
        | some (']' :: rest) => some ([value], rest)
        | _ => none
/-- The entries up to a closing brace, each with a comma after it but perhaps the last one. -/
def members? : Nat → Nat → Table → List Char → Option (Table × List Char)
  | 0, _, _, _ => none
  | fuel + 1, depth, t, text =>
    match skipGap? false text with
    | none => none
    | some ('}' :: rest) => some (t, rest)
    | some text =>
      match keyEquals? text with
      | none => none
      | some (keys, name, rest) =>
        match value? fuel depth rest with
        | none => none
        | some (value, rest) =>
          match t.defineDotted keys name value, skipGap? false rest with
          | some t, some (',' :: rest) => members? fuel depth t rest
          | some t, some ('}' :: rest) => some (t, rest)
          | _, _ => none
end

/-! ## 4. Statements -/

/-- A header: whether it adds to a list of tables, its key, and the rest after its closing brackets. -/
def header? (text : List Char) : Option (Bool × List String × String × List Char) := do
  let (listed, text) ← match text with
    | '[' :: '[' :: rest => some (true, rest)
    | '[' :: rest => some (false, rest)
    | _ => none
  let (keys, name, rest) ← key? (text.length + 1) text
  match listed, rest with
  | true, ']' :: ']' :: rest | false, ']' :: rest => some (listed, keys, name, rest)
  | _, _ => none

/-- Reads statements into a table, given the path of the table that is open. -/
def statements? : Nat → List String → Table → List Char → Option Table
  | 0, _, _, _ => none
  | fuel + 1, path, t, text => do
    match ← skipGap? false text with
    | [] => some t
    | '[' :: rest =>
      let (listed, keys, name, rest) ← header? ('[' :: rest)
      let t ← t.underHeader (if listed then Table.openListed name else Table.openTable name) keys
      statements? fuel (keys ++ [name]) t (← endLine? false rest)
    | text =>
      let (keys, name, rest) ← keyEquals? text
      let (value, rest) ← value? (rest.length + 1) 0 rest
      let t ← t.underHeader (·.defineDotted keys name value) path
      statements? fuel path t (← endLine? false rest)

/-- The table that a file builds up; a mark of byte order at its start is passed over. -/
def read? (text : String) : Option Table :=
  let text := match text.toList with
    | '\ufeff' :: rest => rest
    | text => text
  statements? (text.length + 1) [] {} text

end WikiPage.Toml
